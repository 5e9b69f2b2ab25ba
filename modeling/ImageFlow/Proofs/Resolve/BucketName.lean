import ImageFlow.Proofs.Resolve.ScratchBucket
import ImageFlow.Proofs.Resource.NameForm
import ImageFlow.Proofs.Text.Lower

/-!
# Names of scratch buckets

The name of a scratch bucket is that of its project, with dashes for the colons and points, and the
region, in lower case.  The region starts behind a number of dashes that is known, so the name
determines the rewritten id; and an id is valid with a colon in it only behind the one domain.  So
two valid ids share a name exactly when they are the same, or when one has the domain and the other
has the domain written with dashes.
-/

namespace ImageFlow

open Text (SlashFree)

namespace Location

/-! ## The characters of a name -/

/-- The character that stands in a bucket name for one of a project id. -/
def inBucketName (c : Char) : Char :=
  if c = ':' ∨ c = '.' then '-' else c

/-- What stands between the project and the region in a name. -/
def scratchMark : List Char := "-wfrunner-scratch-".toList

theorem scratchBucketName_eq (project region : String) :
    scratchBucketName project region =
      Text.lower (String.ofList
        (project.toList.map inBucketName ++ (scratchMark ++ region.toList))) := by
  have htext (cs : List Char) (mark : String) :
      String.ofList cs ++ mark ++ region =
        String.ofList (cs ++ (mark.toList ++ region.toList)) := by
    simp [← String.toList_inj]
  exact congrArg Text.lower (htext _ _)

theorem scratchBucketName_ne_empty (project region : String) :
    scratchBucketName project region ≠ "" := by
  have hdash : '-' ∈ (scratchBucketName project region).toList := by
    rw [scratchBucketName_eq, Text.mem_lower_iff (by decide), String.toList_ofList]
    exact List.mem_append_right _ (List.mem_append_left _ (by decide))
  intro hempty
  rw [hempty] at hdash
  cases hdash

theorem slash_mem_map_inBucketName_iff {cs : List Char} :
    '/' ∈ cs.map inBucketName ↔ '/' ∈ cs := by
  rw [List.mem_map]
  constructor
  · rintro ⟨c, hc, hslash⟩
    rw [inBucketName] at hslash
    split at hslash
    · cases hslash
    · rwa [← hslash]
  · intro hslash
    exact ⟨'/', hslash, rfl⟩

/-- The name of a scratch bucket has the slashes of the project and of the region. -/
theorem slashFree_scratchBucketName_iff {project region : String} :
    SlashFree (scratchBucketName project region) ↔ SlashFree project ∧ SlashFree region := by
  have hmark : '/' ∉ scratchMark := by decide
  rw [SlashFree, scratchBucketName_eq, Text.mem_lower_iff (by decide), String.toList_ofList,
    List.mem_append, List.mem_append, slash_mem_map_inBucketName_iff]
  simp only [hmark, false_or, not_or, SlashFree]

/-! ## Names of valid projects -/

theorem map_inBucketName_of_isDashed {cs : List Char} {shortest longest : ℕ}
    (h : ResourceName.IsDashed shortest longest cs) : cs.map inBucketName = cs := by
  have hkept : ResourceName.nameChars.map inBucketName = ResourceName.nameChars.map id := by decide
  have hmap : cs.map inBucketName = cs.map id :=
    List.map_congr_left fun c hc => List.map_inj_left.mp hkept c (h.all_nameChars c hc)
  rw [hmap, List.map_id]

/-- The domain of a project id, as it stands in bucket names. -/
def dashedDomain : List Char := "google-com-".toList

theorem map_inBucketName_projectDomain_append {cs : List Char} {shortest longest : ℕ}
    (h : ResourceName.IsDashed shortest longest cs) :
    (ResourceName.projectDomain ++ cs).map inBucketName = dashedDomain ++ cs := by
  have hdomain : ResourceName.projectDomain.map inBucketName = dashedDomain := by decide
  rw [List.map_append, hdomain, map_inBucketName_of_isDashed h]

theorem isLowered_of_mem_map_inBucketName {project : String}
    (h : ResourceName.checkProject project = .ok ()) {c : Char}
    (hc : c ∈ project.toList.map inBucketName) : Text.IsLowered c := by
  have hnames : ResourceName.nameChars.all (Text.IsLowered ·) = true := by decide
  have hdomain : dashedDomain.all (Text.IsLowered ·) = true := by decide
  rw [Text.all_isLowered_iff] at hnames hdomain
  obtain ⟨id, hid, hproject | hproject⟩ := ResourceName.checkProject_eq_ok_iff_exists.mp h
  · rw [hproject, map_inBucketName_of_isDashed hid] at hc
    exact hnames c (hid.all_nameChars c hc)
  · rw [hproject, map_inBucketName_projectDomain_append hid, List.mem_append] at hc
    exact hc.elim (hdomain c) fun hc => hnames c (hid.all_nameChars c hc)

/-- The name of a bucket of a valid project is the rewritten id, the mark, and the region in lower
case. -/
theorem exists_toList_scratchBucketName {project : String}
    (h : ResourceName.checkProject project = .ok ()) (region : String) :
    ∃ before, (scratchBucketName project region).toList =
      project.toList.map inBucketName ++
        (scratchMark ++ Text.lowerFrom before region.toList) := by
  have hmark : scratchMark.all (Text.IsLowered ·) = true := by decide
  rw [Text.all_isLowered_iff] at hmark
  have hproject := fun c => isLowered_of_mem_map_inBucketName h (c := c)
  rw [scratchBucketName_eq, Text.lower, String.toList_ofList, String.toList_ofList,
    Text.lowerFrom_append_of_isLowered hproject, Text.lowerFrom_append_of_isLowered hmark]
  exact ⟨_, rfl⟩

/-- Bucket names of valid projects in regions with equally many dashes are the same only if the
rewritten ids are. -/
theorem map_inBucketName_eq_of_name_eq {project other region region' : String}
    (h : ResourceName.checkProject project = .ok ())
    (h' : ResourceName.checkProject other = .ok ())
    (hdashes : region.toList.count '-' = region'.toList.count '-')
    (hname : scratchBucketName project region = scratchBucketName other region') :
    project.toList.map inBucketName = other.toList.map inBucketName := by
  obtain ⟨before, hproject⟩ := exists_toList_scratchBucketName h region
  obtain ⟨before', hother⟩ := exists_toList_scratchBucketName h' region'
  have hcut := congrArg String.toList hname
  rw [hproject, hother] at hcut
  -- The mark begins with a dash, and as many dashes follow it on both sides.
  have hmark : scratchMark = '-' :: "wfrunner-scratch-".toList := by decide
  rw [hmark, List.cons_append, List.cons_append] at hcut
  refine (Text.append_cons_inj_of_count ?_ hcut).1
  rw [List.count_append, List.count_append, Text.count_lowerFrom (by decide),
    Text.count_lowerFrom (by decide), hdashes]

/-- One id has the domain, and the other one is the same id with the domain written with dashes. -/
def Counterparts (project other : String) : Prop :=
  ∃ id, project = "google.com:" ++ id ∧ other = "google-com-" ++ id

/-- Two ids that are not told apart by the names of their buckets. -/
def AlikeInNames (project other : String) : Prop :=
  project = other ∨ Counterparts project other ∨ Counterparts other project

theorem Counterparts.map_inBucketName_eq {project other : String}
    (h : Counterparts project other) :
    project.toList.map inBucketName = other.toList.map inBucketName := by
  obtain ⟨id, rfl, rfl⟩ := h
  have hdomain : "google.com:".toList.map inBucketName = "google-com-".toList.map inBucketName := by
    decide
  rw [String.toList_append, String.toList_append, List.map_append, List.map_append, hdomain]

theorem eq_append_ofList {s front : String} {cs : List Char} (h : s.toList = front.toList ++ cs) :
    s = front ++ String.ofList cs := by
  rw [← String.toList_inj, h, String.toList_append, String.toList_ofList]

theorem counterparts_of_dashed {project other : String} {id : List Char}
    (hproject : project.toList = ResourceName.projectDomain ++ id)
    (hother : other.toList = dashedDomain ++ id) : Counterparts project other :=
  ⟨String.ofList id, eq_append_ofList hproject, eq_append_ofList hother⟩

/-- Valid ids are rewritten to the same text exactly when they are the same or counterparts. -/
theorem map_inBucketName_eq_iff {project other : String}
    (h : ResourceName.checkProject project = .ok ())
    (h' : ResourceName.checkProject other = .ok ()) :
    project.toList.map inBucketName = other.toList.map inBucketName ↔
      AlikeInNames project other := by
  constructor
  · intro hsame
    obtain ⟨id, hid, hproject | hproject⟩ := ResourceName.checkProject_eq_ok_iff_exists.mp h
    · obtain ⟨id', hid', hother | hother⟩ := ResourceName.checkProject_eq_ok_iff_exists.mp h'
      · rw [hproject, hother, map_inBucketName_of_isDashed hid,
          map_inBucketName_of_isDashed hid', ← hproject, ← hother] at hsame
        exact .inl (String.toList_injective hsame)
      · rw [hproject, hother, map_inBucketName_of_isDashed hid,
          map_inBucketName_projectDomain_append hid', ← hproject] at hsame
        exact .inr (.inr (counterparts_of_dashed hother hsame))
    · obtain ⟨id', hid', hother | hother⟩ := ResourceName.checkProject_eq_ok_iff_exists.mp h'
      · rw [hproject, hother, map_inBucketName_projectDomain_append hid,
          map_inBucketName_of_isDashed hid', ← hother] at hsame
        exact .inr (.inl (counterparts_of_dashed hproject hsame.symm))
      · rw [hproject, hother, map_inBucketName_projectDomain_append hid,
          map_inBucketName_projectDomain_append hid', List.append_cancel_left_eq] at hsame
        left
        rw [← String.toList_inj, hproject, hother, hsame]
  · rintro (rfl | hcounterparts | hcounterparts)
    · rfl
    · exact hcounterparts.map_inBucketName_eq
    · exact hcounterparts.map_inBucketName_eq.symm

end Location

/-! ## Buckets of other projects -/

namespace Resolution

open Location

theorem bucketPath_inj {bucket other : String} (h : bucketPath bucket = bucketPath other) :
    bucket = other := by
  have hcut := congrArg String.toList h
  rw [bucketPath, bucketPath, String.toList_append, String.toList_append, String.toList_append,
    String.toList_append] at hcut
  exact String.toList_inj.mp (List.append_cancel_left (List.append_cancel_right hcut))

/-- Two valid projects have scratch buckets of the same name, in any region, exactly when they are
the same or one of them is the other with its domain written with dashes.  So a resolution that
creates a bucket for one of them goes on with a bucket of the other, in a region with as many
dashes, only then. -/
theorem scratch_bucket_shared_iff {project other : String}
    (h : ResourceName.checkProject project = .ok ())
    (h' : ResourceName.checkProject other = .ok ()) :
    (∀ region, scratchBucketName project region = scratchBucketName other region ↔
      AlikeInNames project other) ∧
    ∀ {ω : Type} (cloud : Cloud ω) (q : Parameters) (world : ω) (bucket region region' : String),
      ⟨.createBucket project bucket region, .ok ()⟩ ∈ (q.resolvedBy cloud world).world.2 →
      region.toList.count '-' = region'.toList.count '-' →
      (q.resolvedBy cloud world).params.scratchPath =
        bucketPath (scratchBucketName other region') →
      AlikeInNames project other := by
  constructor
  · intro region
    constructor
    · intro hname
      exact (map_inBucketName_eq_iff h h').mp (map_inBucketName_eq_of_name_eq h h' rfl hname)
    · intro halike
      rw [scratchBucketName_eq, scratchBucketName_eq, (map_inBucketName_eq_iff h h').mpr halike]
  · intro ω cloud q world bucket region region' hcreated hdashes hother
    obtain ⟨last, hparams, hcourse⟩ := course_of_resolve cloud q world
    obtain ⟨-, rfl, hpath, -⟩ := hcourse.exists_created hcreated
    rw [← hparams, hpath] at hother
    have hname := bucketPath_inj hother
    exact (map_inBucketName_eq_iff h h').mp (map_inBucketName_eq_of_name_eq h h' hdashes hname)

/-- A project in the domain shares its buckets with the project whose id has the domain written with
dashes, and with no others. -/
theorem scratch_bucket_shared_iff_counterpart :
    (ResourceName.checkProject "google.com:my-project" = .ok () ∧
      ResourceName.checkProject "google-com-my-project" = .ok ()) ∧
    (∀ region, scratchBucketName "google.com:my-project" region =
      scratchBucketName "google-com-my-project" region ↔
        AlikeInNames "google.com:my-project" "google-com-my-project") ∧
    ∀ {ω : Type} (cloud : Cloud ω) (q : Parameters) (world : ω) (bucket region region' : String),
      ⟨.createBucket "google.com:my-project" bucket region, .ok ()⟩ ∈
        (q.resolvedBy cloud world).world.2 →
      region.toList.count '-' = region'.toList.count '-' →
      (q.resolvedBy cloud world).params.scratchPath =
        bucketPath (scratchBucketName "google-com-my-project" region') →
      AlikeInNames "google.com:my-project" "google-com-my-project" := by
  have hproject : ResourceName.checkProject "google.com:my-project" = .ok () := by
    decide +kernel
  have hother : ResourceName.checkProject "google-com-my-project" = .ok () := by
    decide +kernel
  exact ⟨⟨hproject, hother⟩, scratch_bucket_shared_iff hproject hother⟩

-- Across regions with different numbers of dashes the mark may be part of an id.
example : scratchBucketName "my-project-wfrunner-scratch-x" "us-central1" =
    scratchBucketName "my-project" "x-wfrunner-scratch-us-central1" := by
  decide +kernel

/-- Not all valid projects have scratch buckets of their own. -/
theorem not_all_projects_have_own_buckets :
    ¬∀ region project other : String, ResourceName.checkProject project = .ok () →
      ResourceName.checkProject other = .ok () → project ≠ other →
        scratchBucketName project region ≠ scratchBucketName other region := by
  intro h
  apply h "us-central1" "google.com:my-project" "google-com-my-project"
  · decide +kernel
  · decide +kernel
  · decide
  · decide +kernel

end Resolution

end ImageFlow
