import ImageFlow.Proofs.Hook.Frame

/-!
# Encryption of everything or nothing

The encryption either names one key, with the project of the top level, or it leaves the job as it
is.  A key that is named reaches all that the steps create, at every depth, in whichever list a step
keeps it and whatever key it had before.
-/

namespace ImageFlow

/-- What a step creates is encrypted with the key: its disks, its images, and the disks attached to
its instances of either interface. -/
structure StepWork.EncryptedWith (key : EncryptionKey) (work : StepWork) : Prop where
  disks : ∀ disk ∈ work.allDisks, disk.encryptionKey = some key
  images : ∀ image ∈ work.allImages, image.encryptionKey = some key
  attached : ∀ i ∈ work.allInstances, ∀ disk ∈ i.disks, disk.encryptionKey = some key

namespace Encryption

variable (key : EncryptionKey)

theorem encryptionKey_of_mem_encryptInstance
    {i : Instance} {disk : AttachedDisk} (h : disk ∈ (encryptInstance key i).disks) :
    disk.encryptionKey = some key := by
  obtain ⟨before, -, rfl⟩ := List.mem_map.mp h
  rfl

theorem encryptedWith_encryptWork (work : StepWork) :
    (encryptWork key work).EncryptedWith key where
  disks := by
    intro disk hdisk
    have hall : (encryptWork key work).allDisks =
        work.allDisks.map fun disk => { disk with encryptionKey := some key } :=
      Option.getD_map (List.map _) [] work.disks
    rw [hall] at hdisk
    obtain ⟨before, -, rfl⟩ := List.mem_map.mp hdisk
    rfl
  images := by
    intro image himage
    have hall : (encryptWork key work).allImages =
        work.allImages.map fun image => { image with encryptionKey := some key } :=
      Option.getD_map (List.map _) [] work.images
    rw [hall] at himage
    obtain ⟨before, -, rfl⟩ := List.mem_map.mp himage
    rfl
  attached := by
    intro i hi disk hdisk
    have hall : (encryptWork key work).allInstances = work.allInstances.map (encryptInstance key) :=
      StepWork.allInstances_of_instances_eq rfl
    rw [hall] at hi
    obtain ⟨before, -, rfl⟩ := List.mem_map.mp hi
    exact encryptionKey_of_mem_encryptInstance key hdisk

theorem encryptedWith_of_mem_works
    {workflow : Workflow} {work : StepWork} (h : work ∈ (apply key workflow).works) :
    work.EncryptedWith key := by
  rw [apply, Workflow.works_mapWork] at h
  obtain ⟨before, -, rfl⟩ := List.mem_map.mp h
  exact encryptedWith_encryptWork key before

end Encryption

/-- Encryption reaches everything or nothing.  If no key can be named with the project of the top
level, that is the error and the job stays as it is, which it also does if no key is asked for.  A
key that is named ends up at all disks, all images and all disks attached to instances that the steps
create, at every depth, and nothing else about the job is changed. -/
theorem Builtin.encryption_reaches_all_or_none
    (files : FileNode) (request : KeyRequest) (job : Job) :
    let prepared := ((encryption request).prepare files job).value
    (∀ problem, request.name job.workflow.project = .error problem →
      prepared = { job, failure := some (.invalidKey problem) }) ∧
    (request.name job.workflow.project = .ok none → prepared = { job }) ∧
    ∀ name, request.name job.workflow.project = .ok (some name) →
      prepared.failure = none ∧ job.Within .encryptionKeys prepared.job ∧
        ∀ work ∈ prepared.job.workflow.works, work.EncryptedWith ⟨name⟩ := by
  intro prepared
  have hprepared : prepared = Encryption.prepare request job := rfl
  refine ⟨?_, ?_, ?_⟩
  · intro problem hname
    rw [hprepared, Encryption.prepare, hname]
  · intro hname
    rw [hprepared, Encryption.prepare, hname]
  · intro name hname
    have hwithin : job.Within .encryptionKeys prepared.job :=
      touches_prepare files (encryption request) job
    have happlied : prepared = .ofWorkflow (Encryption.apply ⟨name⟩) job := by
      rw [hprepared, Encryption.prepare, hname]
    refine ⟨?_, hwithin, ?_⟩
    · rw [happlied]
      rfl
    · intro work hwork
      rw [happlied] at hwork
      exact Encryption.encryptedWith_of_mem_works ⟨name⟩ hwork

end ImageFlow
