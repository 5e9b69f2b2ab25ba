import ImageFlow.Proofs.Resolve.BucketName
import ImageFlow.Proofs.Resolve.Regions

/-!
# The path of a new scratch bucket

The scratch path of a resolution is put together from the name of the bucket that is created, and it
is split again where it is used.  It names the bucket as long as there is no slash in the name.  A
slash gets there from the project, or from the zone that decides where the bucket lies; neither of
them is checked for one.
-/

namespace ImageFlow

open Location
open Text (SlashFree)

namespace Location

/-! ## Splitting a storage path -/

/-- A text without a slash counts as one that is cut at its end. -/
theorem getD_cutFirst_eq_iff {sep : Char} {cs front back : List Char} :
    (Text.cutFirst sep cs).getD (cs, []) = (front, back) ↔
      sep ∉ front ∧ (cs = front ++ sep :: back ∨ cs = front ∧ back = []) := by
  cases hcut : Text.cutFirst sep cs with
  | none =>
      have hfree := Text.cutFirst_eq_none_iff.mp hcut
      rw [Option.getD_none, Prod.mk.injEq]
      constructor
      · rintro ⟨rfl, rfl⟩
        exact ⟨hfree, .inr ⟨rfl, rfl⟩⟩
      · rintro ⟨-, rfl | ⟨rfl, rfl⟩⟩
        · exact absurd (by simp) hfree
        · exact ⟨rfl, rfl⟩
  | some parts =>
      rw [Option.getD_some]
      constructor
      · rintro rfl
        obtain ⟨hcs, hfront⟩ := Text.cutFirst_eq_some_iff.mp hcut
        exact ⟨hfront, .inl hcs⟩
      · rintro ⟨hfront, hcs | ⟨rfl, -⟩⟩
        · have hcut' := Text.cutFirst_eq_some_iff.mpr ⟨hcs, hfront⟩
          exact Option.some.inj (hcut.symm.trans hcut')
        · rw [Text.cutFirst_eq_none_iff.mpr hfront] at hcut
          cases hcut

/-- A storage path is split into a bucket without slashes and what stands behind the slash after
it. -/
theorem splitStoragePath_eq_ok_iff {path bucket object : String} :
    splitStoragePath path = .ok (bucket, object) ↔
      bucket ≠ "" ∧ SlashFree bucket ∧ ∃ rest, path.toList = storageScheme ++ rest ∧
        (rest = bucket.toList ++ '/' :: object.toList ∨
          rest = bucket.toList ∧ object.toList = []) := by
  rw [splitStoragePath]
  cases hdrop : Text.dropFront storageScheme path.toList with
  | none =>
      have hscheme : ∀ rest, path.toList ≠ storageScheme ++ rest := by
        intro rest hpath
        rw [Text.dropFront_eq_some_iff.mpr hpath] at hdrop
        cases hdrop
      simp [hscheme]
  | some rest =>
      obtain ⟨front, back, hparts⟩ :
          ∃ front back, (Text.cutFirst '/' rest).getD (rest, []) = (front, back) := ⟨_, _, rfl⟩
      simp only [hparts]
      constructor
      · intro h
        split at h
        · cases h
        next hne =>
          cases h
          have hcut := getD_cutFirst_eq_iff.mp hparts
          refine ⟨by simpa using hne, by simpa [SlashFree] using hcut.1, rest,
            Text.dropFront_eq_some_iff.mp hdrop, ?_⟩
          simpa using hcut.2
      · rintro ⟨hne, hfree, rest', hpath, hrest⟩
        obtain rfl : rest = rest' := by
          rw [Text.dropFront_eq_some_iff.mpr hpath] at hdrop
          exact (Option.some.inj hdrop).symm
        rw [getD_cutFirst_eq_iff.mpr ⟨hfree, hrest⟩, Prod.mk.injEq] at hparts
        obtain ⟨rfl, rfl⟩ := hparts
        simp [hne]

/-- The path of a bucket names the bucket exactly when its name has no slash. -/
theorem splitStoragePath_bucketPath_iff {bucket : String} (hne : bucket ≠ "") :
    splitStoragePath (Resolution.bucketPath bucket) = .ok (bucket, "") ↔ SlashFree bucket := by
  rw [splitStoragePath_eq_ok_iff]
  constructor
  · rintro ⟨-, hfree, -⟩
    exact hfree
  · intro hfree
    refine ⟨hne, hfree, bucket.toList ++ ['/'], ?_, .inl rfl⟩
    simp [Resolution.bucketPath, storageScheme]

theorem slashFree_iff_of_regionOfZone {zone region : String} (h : regionOfZone zone = .ok region) :
    SlashFree zone ↔ SlashFree region :=
  (mem_zone_iff h (by decide) (by decide)).not

end Location

namespace Resolution

/-! ## The path of a bucket that is created -/

/-- The region that is found for a new bucket has no slash exactly when the deciding zone has
none. -/
theorem BucketRegionFound.slashFree_iff {given region : String} {found replies : List CloudReply}
    (h : BucketRegionFound given region found) (hfound : found ⊆ replies)
    (hreplies : ∀ reply ∈ replies, reply.call.operation = .metadataZone → reply ∈ found) :
    SlashFree region ↔ ∀ zone, DecidingZone given replies zone → SlashFree zone := by
  constructor
  · intro hfree zone hzone
    exact (slashFree_iff_of_regionOfZone (h.regionOfZone_eq hreplies hzone)).mpr hfree
  · intro hzones
    cases h with
    | ofZone hgiven hregion =>
        exact (slashFree_iff_of_regionOfZone hregion).mp (hzones _ (.given hgiven))
    | answered hempty hanswer hregion =>
        have hmem := hfound (List.mem_singleton.mpr rfl)
        exact (slashFree_iff_of_regionOfZone hregion).mp
          (hzones _ (.answered hempty hanswer hmem))
    | blank => decide
    | unanswered => decide

/-- A resolution that creates a scratch bucket stores the path of this bucket.  The path is split
into the bucket and an empty object exactly when neither the project nor the zone that decides where
the bucket lies has a slash. -/
theorem scratchPath_names_created_bucket {ω : Type} (cloud : Cloud ω) (q : Parameters) (world : ω)
    {project bucket region : String}
    (hcreated : ⟨.createBucket project bucket region, .ok ()⟩ ∈
      (q.resolvedBy cloud world).world.2) :
    (q.resolvedBy cloud world).params.project = project ∧
      bucket = scratchBucketName project region ∧
      (q.resolvedBy cloud world).params.scratchPath = bucketPath bucket ∧
      (splitStoragePath (q.resolvedBy cloud world).params.scratchPath = .ok (bucket, "") ↔
        SlashFree project ∧
          ∀ zone, DecidingZone q.zone (q.resolvedBy cloud world).world.2 zone →
            SlashFree zone) := by
  obtain ⟨last, hparams, hcourse⟩ := course_of_resolve cloud q world
  rw [← hparams]
  obtain ⟨hproject, rfl, hpath, found, hfound, hregion, hasked⟩ := hcourse.exists_created hcreated
  refine ⟨hproject, rfl, hpath, ?_⟩
  rw [hpath, splitStoragePath_bucketPath_iff (scratchBucketName_ne_empty _ _),
    slashFree_scratchBucketName_iff, hregion.slashFree_iff hfound hasked]

/-- A cloud that names a project with a domain and a zone, and creates buckets. -/
def domainCloud : Cloud Unit := fun call _ =>
  match call with
  | .metadataProject => (.ok "example.com:Meta", ())
  | .metadataZone => (.ok "europe-west1-b", ())
  | .createBucket .. => (.ok (), ())
  | _ => (.error .network, ())

/-- The bucket that blank parameters get from `domainCloud` is named by their scratch path, although
the resolution fails at the zone. -/
theorem scratchPath_names_created_bucket_meta :
    ⟨.createBucket "example.com:Meta" "example-com-meta-wfrunner-scratch-europe-west1"
        "europe-west1", .ok ()⟩ ∈ (({} : Parameters).resolvedBy domainCloud ()).world.2 ∧
      (({} : Parameters).resolvedBy domainCloud ()).params.project = "example.com:Meta" ∧
      "example-com-meta-wfrunner-scratch-europe-west1" =
        scratchBucketName "example.com:Meta" "europe-west1" ∧
      (({} : Parameters).resolvedBy domainCloud ()).params.scratchPath =
        bucketPath "example-com-meta-wfrunner-scratch-europe-west1" ∧
      (splitStoragePath (({} : Parameters).resolvedBy domainCloud ()).params.scratchPath =
          .ok ("example-com-meta-wfrunner-scratch-europe-west1", "") ↔
        SlashFree "example.com:Meta" ∧
          ∀ zone, DecidingZone "" (({} : Parameters).resolvedBy domainCloud ()).world.2 zone →
            SlashFree zone) := by
  have hcreated : ⟨.createBucket "example.com:Meta"
      "example-com-meta-wfrunner-scratch-europe-west1" "europe-west1", .ok ()⟩ ∈
        (({} : Parameters).resolvedBy domainCloud ()).world.2 := by
    decide +kernel
  exact ⟨hcreated, scratchPath_names_created_bucket domainCloud {} () hcreated⟩

/-- Parameters with a slash in the project. -/
def slashedProject : Parameters :=
  { project := "a/b", zone := "us-central1-a" }

/-- A scratch path does not always name the bucket that is created: with a slash in the project it
names another bucket, and an object in it. -/
theorem not_every_scratchPath_names_bucket :
    ¬∀ (q : Parameters) (cloud : Cloud Unit) (project bucket region : String),
      ⟨.createBucket project bucket region, .ok ()⟩ ∈ (q.resolvedBy cloud ()).world.2 →
        splitStoragePath (q.resolvedBy cloud ()).params.scratchPath = .ok (bucket, "") := by
  intro h
  have hcreated : ⟨.createBucket "a/b" "a/b-wfrunner-scratch-us-central1" "us-central1",
      .ok ()⟩ ∈ (slashedProject.resolvedBy domainCloud ()).world.2 := by
    decide +kernel
  have hsplit : splitStoragePath (slashedProject.resolvedBy domainCloud ()).params.scratchPath =
      .ok ("a", "b-wfrunner-scratch-us-central1/") := by
    decide +kernel
  have hnamed := h slashedProject domainCloud _ _ _ hcreated
  rw [hsplit] at hnamed
  exact absurd hnamed (by decide)

end Resolution

end ImageFlow
