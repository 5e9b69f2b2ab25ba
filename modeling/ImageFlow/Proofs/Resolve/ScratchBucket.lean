import ImageFlow.Proofs.Resolve.FailFast

/-!
# The scratch bucket of a resolution

A call belongs to one stage, so where it is made the course of a resolution comes apart: the stages
before, the stage that makes the call, and what is left.  For a call that creates the scratch
bucket, or that is told where the bucket lies, this gives what the stage of the scratch path has
found, and the course after it (`PastScratch`).
-/

namespace ImageFlow

/-- Answers to one call can be compared. -/
instance CloudCall.decidableEqAnswer : (call : CloudCall) → DecidableEq call.Answer
  | metadataProject => inferInstanceAs (DecidableEq String)
  | metadataZone => inferInstanceAs (DecidableEq String)
  | bucketLocation _ => inferInstanceAs (DecidableEq String)
  | createBucket .. => inferInstanceAs (DecidableEq Unit)
  | zones _ => inferInstanceAs (DecidableEq (List Zone))
  | machineTypes .. => inferInstanceAs (DecidableEq (List String))
  | image .. => inferInstanceAs (DecidableEq StoredDisk)
  | snapshot .. => inferInstanceAs (DecidableEq StoredDisk)
  | subnetwork .. => inferInstanceAs (DecidableEq Subnetwork)
  | createImage .. => inferInstanceAs (DecidableEq Unit)

deriving instance DecidableEq for CloudReply

/-- A resolution in which everything that the cloud is asked is written down, with the answers. -/
abbrev Parameters.resolvedBy {ω : Type} (q : Parameters) (cloud : Cloud ω) (world : ω) :
    Resolved (ω × List CloudReply) :=
  q.resolve cloud.transcribed (.ofCloud cloud.transcribed) (world, [])

namespace Resolution

open Location

variable {stages front back : List Stage} {stage : Stage} {q : Parameters}
  {r last : Resolution} {result : Except ResolveError Unit} {replies : List CloudReply}
  {reply : CloudReply}

/-! ## Where a call is made -/

/-- What a stage and the stages after it make of a resolution: the stage fails, or it finds its
values and the others are taken. -/
inductive Onward (stage : Stage) (back : List Stage) (r last : Resolution) :
    Except ResolveError Unit → List CloudReply → List CloudReply → Prop where
  | failed {failure : ResolveError} {made : List CloudReply} (h : stage.Fails r failure made)
    (hlast : last = r) : Onward stage back r last (.error failure) made []
  | found {next : Resolution} {result : Except ResolveError Unit} {made later : List CloudReply}
    (h : stage.Finds r next made) (hback : Course back next last result later) :
    Onward stage back r last result made later

theorem Onward.operations_prefix_due {made later : List CloudReply}
    (h : Onward stage back r last result made later) : operations made <+: stage.due r.params := by
  cases h with
  | failed hfails => exact hfails.operations_prefix_due
  | found hfinds => rw [hfinds.operations_eq]

/-- A course comes apart at the stage that makes a call. -/
theorem Course.exists_visit (h : Course stages r last result replies) (hmem : reply ∈ replies) :
    ∃ front stage back middle earlier made later, stages = front ++ stage :: back ∧
      replies = earlier ++ (made ++ later) ∧ reply ∈ made ∧
        Course front r middle (.ok ()) earlier ∧
          Onward stage back middle last result made later := by
  induction h with
  | done => cases hmem
  | @failed stage rest r failure made h =>
      exact ⟨[], stage, rest, r, [], made, [], rfl, by simp, hmem, .done, .failed h rfl⟩
  | @found stage rest r middle last result made later h hrest ih =>
      rcases List.mem_append.mp hmem with hmade | hlater
      · exact ⟨[], stage, rest, r, [], made, later, rfl, rfl, hmade, .done, .found h hrest⟩
      · obtain ⟨front, visited, back, between, earlier, made', later', rfl, rfl, hmade, hfront,
          honward⟩ := ih hlater
        exact ⟨stage :: front, visited, back, between, made ++ earlier, made', later', rfl,
          by simp, hmade, .found h hfront, honward⟩

theorem Stage.nodup_all : Stage.all.Nodup := by decide

/-- A course through all stages comes apart at the stage that an operation belongs to. -/
theorem Course.visit (h : Course Stage.all r last result replies) (hmem : reply ∈ replies)
    (hstage : stageOf reply.call.operation = some stage)
    (hall : Stage.all = front ++ stage :: back) :
    ∃ middle earlier made later, replies = earlier ++ (made ++ later) ∧ reply ∈ made ∧
      Course front r middle (.ok ()) earlier ∧ Onward stage back middle last result made later := by
  obtain ⟨front', visited, back', middle, earlier, made, later, hall', hreplies, hmade, hfront,
    honward⟩ := h.exists_visit hmem
  obtain rfl : stage = visited := by
    have hvisited := stageOf_of_prefix_due honward.operations_prefix_due hmade
    exact Option.some.inj (hstage.symm.trans hvisited)
  have hnodup := Stage.nodup_all
  rw [hall, List.nodup_append, List.nodup_cons] at hnodup
  obtain ⟨-, ⟨hback, -⟩, hne⟩ := hnodup
  have hnotMem : stage ∉ front := fun hmem => hne stage hmem stage List.mem_cons_self rfl
  obtain ⟨rfl, -, rfl⟩ :=
    (List.append_cons_inj_of_notMem hnotMem hback).mp (hall.symm.trans hall')
  exact ⟨middle, earlier, made, later, hreplies, hmade, hfront, honward⟩

/-! ## Past the stage of the scratch path -/

/-- The stages after that of the scratch path. -/
def stagesAfterScratch : List Stage :=
  [.storageLocation, .zone, .region, .network, .series]

/-- A resolution of `q` comes past the stage of the scratch path: the project is found, then the
path and the region of its bucket, and the stages after it are taken. -/
structure PastScratch (q : Parameters) (project path bucketRegion : String)
    (byProject byScratch later : List CloudReply) (last : Resolution)
    (result : Except ResolveError Unit) : Prop where
  project_found : ProjectFound q.project project byProject
  scratch_found : ScratchFound project q.zone q.scratchPath path bucketRegion byScratch
  onward : Course stagesAfterScratch
    { params := { q with project, scratchPath := path }, bucketRegion } last result later

namespace PastScratch

variable {project path bucketRegion : String} {byProject byScratch later : List CloudReply}

theorem stageOf_byProject (h : PastScratch q project path bucketRegion byProject byScratch later
    last result) (hmem : reply ∈ byProject) :
    stageOf reply.call.operation = some .project := by
  have hfinds := Stage.Finds.project (r := { params := q }) h.project_found
  exact stageOf_of_prefix_due (by rw [hfinds.operations_eq]) hmem

theorem stageOf_byScratch (h : PastScratch q project path bucketRegion byProject byScratch later
    last result) (hmem : reply ∈ byScratch) :
    stageOf reply.call.operation = some .scratchPath := by
  have hfinds :=
    Stage.Finds.scratchPath (r := { params := { q with project } }) h.scratch_found
  exact stageOf_of_prefix_due (by rw [hfinds.operations_eq]) hmem

theorem mem_byScratch (h : PastScratch q project path bucketRegion byProject byScratch later last
    result) (hmem : reply ∈ byProject ++ (byScratch ++ later))
    (hstage : stageOf reply.call.operation = some .scratchPath) : reply ∈ byScratch := by
  rcases List.mem_append.mp hmem with hproject | hrest
  · rw [h.stageOf_byProject hproject] at hstage
    cases hstage
  · exact (List.mem_append.mp hrest).resolve_right fun hlater =>
      h.onward.stageOf_ne (by decide) reply hlater hstage

theorem mem_later (h : PastScratch q project path bucketRegion byProject byScratch later last
    result) (hmem : reply ∈ byProject ++ (byScratch ++ later))
    (hstage : stageOf reply.call.operation = some stage) (hafter : stage ∈ stagesAfterScratch) :
    reply ∈ later := by
  rcases List.mem_append.mp hmem with hproject | hrest
  · obtain rfl := Option.some.inj ((h.stageOf_byProject hproject).symm.trans hstage)
    exact absurd hafter (by decide)
  · apply (List.mem_append.mp hrest).resolve_left
    intro hscratch
    obtain rfl := Option.some.inj ((h.stageOf_byScratch hscratch).symm.trans hstage)
    exact absurd hafter (by decide)

/-- The project and the scratch path stay as they are found. -/
theorem params_eq (h : PastScratch q project path bucketRegion byProject byScratch later last
    result) : last.params.project = project ∧ last.params.scratchPath = path := by
  have hproject : Stage.project.Agree last.params _ := h.onward.agree (by decide)
  have hscratch : Stage.scratchPath.Agree last.params _ := h.onward.agree (by decide)
  exact ⟨hproject, hscratch⟩

end PastScratch

/-! ## Buckets that are created or located -/

section Bucket

variable {project zone given path bucketRegion place bucket region location : String}
  {failure : ResolveError} {made : List CloudReply}

/-- Where its region is looked for, a new bucket is neither created nor located. -/
theorem operation_eq_metadataZone
    (h : operations made = if zone = "" then [.metadataZone] else []) (hmem : reply ∈ made) :
    reply.call.operation = .metadataZone := by
  have hoperation : reply.call.operation ∈ operations made := List.mem_map_of_mem hmem
  rw [h] at hoperation
  split at hoperation
  · exact List.mem_singleton.mp hoperation
  · cases hoperation

/-- A bucket that is created is the one that the stage names after the project and the region, and
the path is that of this bucket. -/
theorem ScratchFound.of_created (h : ScratchFound project zone given path bucketRegion made)
    (hmem : ⟨.createBucket place bucket region, .ok ()⟩ ∈ made) :
    place = project ∧ bucket = scratchBucketName project region ∧ bucketRegion = region ∧
      path = bucketPath bucket ∧
        ∃ found, found ⊆ made ∧ BucketRegionFound zone region found ∧
          ∀ reply ∈ made, reply.call.operation = .metadataZone → reply ∈ found := by
  cases h with
  | given =>
      have hcall := congrArg CloudReply.call (List.mem_singleton.mp hmem)
      cases hcall
  | @created _ found _ hregion =>
      rcases List.mem_append.mp hmem with hfound | hlast
      · cases operation_eq_metadataZone hregion.operations_eq hfound
      · cases List.mem_singleton.mp hlast
        refine ⟨rfl, rfl, rfl, rfl, found, List.subset_append_left _ _, hregion, ?_⟩
        intro reply hreply hzone
        apply (List.mem_append.mp hreply).resolve_right
        intro hlast
        rw [List.mem_singleton.mp hlast] at hzone
        cases hzone

/-- A bucket that is located lies in the region that is found, in small letters. -/
theorem ScratchFound.of_located (h : ScratchFound project zone given path bucketRegion made)
    (hmem : ⟨.bucketLocation bucket, .ok location⟩ ∈ made) :
    bucketRegion = Text.lower location := by
  cases h with
  | given =>
      cases List.mem_singleton.mp hmem
      rfl
  | created _ hregion =>
      rcases List.mem_append.mp hmem with hfound | hlast
      · cases operation_eq_metadataZone hregion.operations_eq hfound
      · have hcall := congrArg CloudReply.call (List.mem_singleton.mp hlast)
        cases hcall

/-- Where the stage fails, no bucket is created or located. -/
theorem ScratchMissed.exists_error (h : ScratchMissed project zone given failure made)
    (hmem : reply ∈ made) (hzone : reply.call.operation ≠ .metadataZone) :
    ∃ source, reply.answer = .error source := by
  cases h with
  | malformed => cases hmem
  | unlocated _ _ source =>
      cases List.mem_singleton.mp hmem
      exact ⟨source, rfl⟩
  | unplaced _ hregion =>
      exact absurd (operation_eq_metadataZone hregion.operations_eq hmem) hzone
  | uncreated _ hregion source =>
      rcases List.mem_append.mp hmem with hfound | hlast
      · exact absurd (operation_eq_metadataZone hregion.operations_eq hfound) hzone
      · cases List.mem_singleton.mp hlast
        exact ⟨source, rfl⟩

/-- A bucket is created or located only by a resolution that comes past the stage of the scratch
path. -/
theorem Course.exists_pastScratch (h : Course Stage.all { params := q } last result replies)
    (hmem : reply ∈ replies) (hstage : stageOf reply.call.operation = some .scratchPath)
    (hzone : reply.call.operation ≠ .metadataZone)
    (hok : ∀ source, reply.answer ≠ .error source) :
    ∃ project path bucketRegion byProject byScratch later,
      replies = byProject ++ (byScratch ++ later) ∧ reply ∈ byScratch ∧
        PastScratch q project path bucketRegion byProject byScratch later last result := by
  have hall : Stage.all = [.project] ++ .scratchPath :: stagesAfterScratch := rfl
  obtain ⟨middle, earlier, byScratch, later, rfl, hmade, hfront, honward⟩ :=
    h.visit hmem hstage hall
  cases hfront with
  | found hfinds hdone =>
      cases hdone
      cases hfinds with
      | @project _ project _ hproject =>
          cases honward with
          | failed hfails =>
              cases hfails with
              | scratchPath hscratch =>
                  obtain ⟨source, hsource⟩ := hscratch.exists_error hmade hzone
                  exact absurd hsource (hok source)
          | found hfinds hback =>
              cases hfinds with
              | @scratchPath _ path bucketRegion _ hscratch =>
                  exact ⟨project, path, bucketRegion, _, byScratch, later, by simp, hmade, hproject,
                    hscratch, hback⟩

/-- A resolution that creates a bucket names it after the project and the region that is found for
it, and stores its path. -/
theorem Course.exists_created (h : Course Stage.all { params := q } last result replies)
    (hcreated : ⟨.createBucket project bucket region, .ok ()⟩ ∈ replies) :
    last.params.project = project ∧ bucket = scratchBucketName project region ∧
      last.params.scratchPath = bucketPath bucket ∧
        ∃ found, found ⊆ replies ∧ BucketRegionFound q.zone region found ∧
          ∀ reply ∈ replies, reply.call.operation = .metadataZone → reply ∈ found := by
  obtain ⟨place, path, bucketRegion, byProject, byScratch, later, rfl, hmade, hpast⟩ :=
    h.exists_pastScratch hcreated rfl nofun nofun
  obtain ⟨hproject, hpath⟩ := hpast.params_eq
  obtain ⟨rfl, hbucket, -, rfl, found, hfound, hregion, hasked⟩ :=
    hpast.scratch_found.of_created hmade
  refine ⟨hproject, hbucket, hpath, found, ?_, hregion, ?_⟩
  · intro reply hreply
    exact List.mem_append_right _ (List.mem_append_left _ (hfound hreply))
  · intro reply hreply hzone
    exact hasked reply (hpast.mem_byScratch hreply (by rw [hzone]; rfl)) hzone

end Bucket

end Resolution

end ImageFlow
