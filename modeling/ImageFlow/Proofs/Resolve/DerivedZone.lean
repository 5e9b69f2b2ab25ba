import ImageFlow.Proofs.Cloud.Listing
import ImageFlow.Proofs.Resolve.Answers
import ImageFlow.Proofs.Resolve.Regions
import ImageFlow.Proofs.Resolve.ScratchBucket

/-!
# The zone near the scratch bucket

Where no zone is given, a resolution takes the first listed zone that is in use in the region of its
scratch bucket.  The zone is chosen by what its name begins with, the region is cut from the zone,
and the storage location follows from the bucket.  The three agree as long as regions have one dash:
the zone lies in the region that stands for the location of the bucket, this is the region that is
found, and the storage location is the widest one around it.
-/

namespace ImageFlow

open Location

/-- The zone is in use and lies in the region. -/
def Zone.IsUpIn (zone : Zone) (region : String) : Prop :=
  zone.status = upStatus ∧ regionOfZone zone.name = .ok region

/-- The zone is the first one of the listing that is in use in the region. -/
def Zone.IsFirstUp (zone : Zone) (region : String) (zones : List Zone) : Prop :=
  zone.IsUpIn region ∧ ∃ earlier later, zones = earlier ++ zone :: later ∧
    ∀ other ∈ earlier, ¬other.IsUpIn region

namespace Location

section Listing

variable {region : String} {zones : List Zone} {zone : Zone}

theorem find?_isUsable_eq_some_iff (hregion : IsRegion region)
    (hzones : ∀ zone ∈ zones, IsZone zone.name) :
    zones.find? (isUsable region) = some zone ↔ zone.IsFirstUp region zones := by
  rw [List.find?_eq_some_iff_append]
  constructor
  · rintro ⟨husable, earlier, later, rfl, hearlier⟩
    refine ⟨(isUsable_iff hregion (hzones zone (by simp))).mp husable, earlier, later, rfl, ?_⟩
    intro other hother hup
    have husable := (isUsable_iff hregion (hzones other (by simp [hother]))).mpr hup
    simpa [husable] using hearlier other hother
  · rintro ⟨hup, earlier, later, rfl, hearlier⟩
    refine ⟨(isUsable_iff hregion (hzones zone (by simp))).mpr hup, earlier, later, rfl, ?_⟩
    intro other hother
    rw [Bool.not_eq_true', Bool.eq_false_iff]
    intro husable
    exact hearlier other hother
      ((isUsable_iff hregion (hzones other (by simp [hother]))).mp husable)

theorem find?_isUsable_eq_none_iff (hregion : IsRegion region)
    (hzones : ∀ zone ∈ zones, IsZone zone.name) :
    zones.find? (isUsable region) = none ↔ ∀ zone ∈ zones, ¬zone.IsUpIn region := by
  rw [List.find?_eq_none]
  apply forall₂_congr
  intro zone hzone
  exact (isUsable_iff hregion (hzones zone hzone)).not

end Listing

end Location

namespace Resolution

/-! ## Where the bucket lies -/

/-- The scratch bucket of a resolution lies in a location: the cloud says so of the bucket that is
given, or the bucket is created there. -/
inductive BucketLies (replies : List CloudReply) : String → Prop where
  | located {bucket location : String} (h : ⟨.bucketLocation bucket, .ok location⟩ ∈ replies) :
    BucketLies replies location
  | created {project bucket region : String}
    (h : ⟨.createBucket project bucket region, .ok ()⟩ ∈ replies) : BucketLies replies region

variable {q : Parameters} {r last : Resolution} {result : Except ResolveError Unit}
  {replies : List CloudReply} {location project : String} {zones : List Zone}

theorem BucketLies.mono {made : List CloudReply} (h : BucketLies made location)
    (hmade : made ⊆ replies) : BucketLies replies location := by
  cases h with
  | located hmem => exact .located (hmade hmem)
  | created hmem => exact .created (hmade hmem)

/-- A scratch path is found with the location of its bucket. -/
theorem ScratchFound.exists_bucketLies {zone given path bucketRegion : String}
    (h : ScratchFound project zone given path bucketRegion replies) :
    ∃ location, BucketLies replies location := by
  cases h with
  | @given _ _ location => exact ⟨location, .located (List.mem_singleton.mpr rfl)⟩
  | created =>
      exact ⟨bucketRegion, .created (List.mem_append_right _ (List.mem_singleton.mpr rfl))⟩

/-- Where a bucket lies, a resolution comes past the stage of the scratch path with the region of
the bucket, which is its location up to case. -/
theorem Course.exists_pastScratch_of_bucketLies
    (h : Course Stage.all { params := q } last result replies)
    (hlies : BucketLies replies location) :
    ∃ place path bucketRegion byProject byScratch later,
      replies = byProject ++ (byScratch ++ later) ∧
        (bucketRegion = location ∨ bucketRegion = Text.lower location) ∧
        PastScratch q place path bucketRegion byProject byScratch later last result := by
  cases hlies with
  | located hmem =>
      obtain ⟨place, path, bucketRegion, byProject, byScratch, later, hreplies, hmade, hpast⟩ :=
        h.exists_pastScratch hmem rfl nofun nofun
      exact ⟨place, path, bucketRegion, byProject, byScratch, later, hreplies,
        .inr (hpast.scratch_found.of_located hmade), hpast⟩
  | created hmem =>
      obtain ⟨place, path, bucketRegion, byProject, byScratch, later, hreplies, hmade, hpast⟩ :=
        h.exists_pastScratch hmem rfl nofun nofun
      obtain ⟨-, -, hregion, -⟩ := hpast.scratch_found.of_created hmade
      exact ⟨place, path, bucketRegion, byProject, byScratch, later, hreplies, .inl hregion, hpast⟩

/-! ## The stage of the zone -/

/-- What a course makes of a listing of zones from the stage of the zone on: it fails for want of a
usable zone, or it takes the first usable one, and the region of this zone if it ends well. -/
theorem Course.zone_of_listed (h : Course [.zone, .region, .network, .series] r last result replies)
    (hblank : r.params.zone = "") (hlisted : ⟨.zones project, .ok zones⟩ ∈ replies) :
    (zones.find? (isUsable (representativeRegion r.bucketRegion)) = none →
      result = .error (.noZone (representativeRegion r.bucketRegion) project)) ∧
    ∀ zone, zones.find? (isUsable (representativeRegion r.bucketRegion)) = some zone →
      last.params.zone = zone.name ∧
        (result = .ok () → regionOfZone zone.name = .ok last.params.region) := by
  cases h with
  | failed hfails =>
      cases hfails with
      | zone hmissed =>
          cases hmissed with
          | unlisted => cases List.mem_singleton.mp hlisted
          | unusable _ hnone =>
              cases List.mem_singleton.mp hlisted
              rw [hnone]
              exact ⟨fun _ => rfl, nofun⟩
  | @found _ _ _ _ _ _ made later hfinds hrest =>
      have hmade : ⟨.zones project, .ok zones⟩ ∈ made :=
        (List.mem_append.mp hlisted).resolve_right fun hlater =>
          hrest.stageOf_ne (by decide) _ hlater rfl
      have hzone : Stage.zone.Agree last.params _ := hrest.agree (by decide)
      cases hfinds with
      | zone hfound =>
          cases hfound with
          | given hgiven => exact absurd hblank hgiven
          | @listed _ first _ hfirst =>
              cases List.mem_singleton.mp hmade
              rw [hfirst]
              refine ⟨nofun, ?_⟩
              rintro _ ⟨⟩
              refine ⟨hzone, ?_⟩
              rintro rfl
              cases hrest with
              | found hfinds hrest =>
                  cases hfinds with
                  | region hregion =>
                      have hkept : Stage.region.Agree last.params _ := hrest.agree (by decide)
                      exact hkept ▸ hregion

/-- A resolution that fills in a blank zone knows where the bucket lies, and has asked for the zones
of its project. -/
theorem exists_listed_of_filledIn {p : Parameters} (h : q.FilledIn p replies)
    (hblank : q.zone = "") :
    (∃ location, BucketLies replies location) ∧
      ∃ zones, ⟨.zones p.project, .ok zones⟩ ∈ replies := by
  cases h with
  | intro hproject hscratch hzone =>
      constructor
      · obtain ⟨location, hlies⟩ := hscratch.exists_bucketLies
        refine ⟨location, hlies.mono ?_⟩
        intro reply hreply
        simp [hreply]
      · cases hzone with
        | given hgiven => exact absurd hblank hgiven
        | @listed zones => exact ⟨zones, by simp⟩

/-- What a resolution of `q` that leaves `p` behind has found near a bucket in a location, with the
zones that are listed. -/
structure ZoneNear (q p : Parameters) (location : String) (zones : List Zone) : Prop where
  zone_first : ∃ zone : Zone,
    zone.IsFirstUp (representativeRegion location) zones ∧ p.zone = zone.name
  region_eq : p.region = representativeRegion location
  storageLocation_eq : q.storageLocation = some "" →
    p.storageLocation = some (largestStorageLocation p.region)

/-- What a course with a blank zone makes of a bucket that lies in a place and of the zones that are
listed. -/
theorem Course.zoneNear (h : Course Stage.all { params := q } last result replies)
    (hblank : q.zone = "") (hlies : BucketLies replies location)
    (hplace : ∃ place, IsPlace place ∧ Text.lower location = Text.lower place)
    (hlisted : ⟨.zones project, .ok zones⟩ ∈ replies) (hzones : ∀ zone ∈ zones, IsZone zone.name) :
    (result = .ok () → ZoneNear q last.params location zones) ∧
      ((∀ zone ∈ zones, ¬zone.IsUpIn (representativeRegion location)) →
        result = .error (.noZone (representativeRegion location) project)) := by
  obtain ⟨found, path, bucketRegion, byProject, byScratch, later, rfl, hcase, hpast⟩ :=
    h.exists_pastScratch_of_bucketLies hlies
  have hlater := hpast.mem_later hlisted rfl (by decide)
  have hregion : IsRegion (representativeRegion location) := by
    obtain ⟨place, hplace, hlocation⟩ := hplace
    exact isRegion_representativeRegion hlocation hplace
  have hsame : representativeRegion bucketRegion = representativeRegion location := by
    rcases hcase with rfl | rfl
    · rfl
    · exact representativeRegion_lower location
  have honward := hpast.onward
  cases honward with
  | failed hfails => cases hfails
  | found hfinds hrest =>
      cases hfinds
      have hkept : Stage.storageLocation.Agree last.params _ := hrest.agree (by decide)
      have hstored : last.params.storageLocation = locationFor bucketRegion q.storageLocation :=
        hkept
      obtain ⟨hnone, hsome⟩ := hrest.zone_of_listed hblank hlater
      constructor
      · intro hok
        cases hfind : zones.find? (isUsable (representativeRegion bucketRegion)) with
        | none =>
            rw [hnone hfind] at hok
            cases hok
        | some zone =>
            obtain ⟨hname, hzone⟩ := hsome zone hfind
            rw [hsame] at hfind
            have hfirst := (find?_isUsable_eq_some_iff hregion hzones).mp hfind
            have hfound : last.params.region = representativeRegion location :=
              Except.ok.inj ((hzone hok).symm.trans hfirst.1.2)
            refine ⟨⟨zone, hfirst, hname⟩, hfound, ?_⟩
            intro hasked
            rw [hstored, hasked, hfound, ← hsame, largestStorageLocation_representativeRegion]
            simp [locationFor]
      · intro hno
        have hfind := (find?_isUsable_eq_none_iff hregion hzones).mpr hno
        rw [← hsame] at hfind
        rw [← hsame]
        exact hnone hfind

/-- A derived zone lies where the bucket is.  Suppose that every listed zone is a region with one
dash, a dash and a letter, and that the bucket lies in a multi-region or such a region, up to case.
A resolution of parameters with a blank zone that ends well has asked for the zones of its project;
the zone is the first one that is in use in the region that stands for the location of the bucket,
this is also the region that is found, and a storage location that is asked for is the widest one
around it.  If there is no such zone in the listing, the resolution fails with this region.  For
clients of the services, the listing is all items of all its pages, in order. -/
theorem derived_zone_near_bucket {ω : Type} (cloud : Cloud ω) (q : Parameters) (world : ω)
    (hblank : q.zone = "")
    (hzones : ∀ project zones,
      ⟨.zones project, .ok zones⟩ ∈ (q.resolvedBy cloud world).world.2 →
        ∀ zone ∈ zones, IsZone zone.name)
    (hplaces : ∀ location, BucketLies (q.resolvedBy cloud world).world.2 location →
      ∃ place, IsPlace place ∧ Text.lower location = Text.lower place) :
    ((q.resolvedBy cloud world).result = .ok () →
      (∃ location, BucketLies (q.resolvedBy cloud world).world.2 location) ∧
        ∃ zones, ⟨.zones (q.resolvedBy cloud world).params.project, .ok zones⟩ ∈
          (q.resolvedBy cloud world).world.2) ∧
    (∀ location project zones, BucketLies (q.resolvedBy cloud world).world.2 location →
      ⟨.zones project, .ok zones⟩ ∈ (q.resolvedBy cloud world).world.2 →
        ((q.resolvedBy cloud world).result = .ok () →
          ZoneNear q (q.resolvedBy cloud world).params location zones) ∧
        ((∀ zone ∈ zones, ¬zone.IsUpIn (representativeRegion location)) →
          (q.resolvedBy cloud world).result =
            .error (.noZone (representativeRegion location) project))) ∧
    ∀ transport metadata storage compute budget,
      cloud = .ofClients transport metadata storage compute budget →
        ∀ project zones,
          ⟨.zones project, .ok zones⟩ ∈ (q.resolvedBy cloud world).world.2 →
            ∃ before pages after,
              ComputeClient.Pages (compute.zonePage transport project) none before pages after ∧
                zones = pages.flatMap (·.items) := by
  refine ⟨?_, ?_, ?_⟩
  · intro hok
    exact exists_listed_of_filledIn (Parameters.filledIn_of_resolve hok) hblank
  · intro location project zones hlies hlisted
    obtain ⟨last, hparams, hcourse⟩ := course_of_resolve cloud q world
    rw [← hparams]
    exact hcourse.zoneNear hblank hlies (hplaces location hlies) hlisted (hzones _ _ hlisted)
  · rintro transport metadata storage compute budget rfl project zones hlisted
    obtain ⟨before, after, hanswer⟩ := answers_of_mem_resolve _ q world hlisted
    obtain ⟨pages, hpages, -, hitems⟩ := ComputeClient.zones_eq_ok_iff.mp hanswer
    exact ⟨before, pages, after, hpages, hitems⟩

/-- Zones of a region, behind one of a region whose name begins with that of the first. -/
def centralZones : List Zone :=
  [⟨"us-central10-a", "UP"⟩, ⟨"us-central1-a", "DOWN"⟩, ⟨"us-central1-f", "UP"⟩,
    ⟨"us-central1-b", "UP"⟩]

/-- Answers to a look-up of a bucket, for two pages of zones, and for machine types. -/
def centralAnswers : List String :=
  [ "\x7b\"name\":\"scratch\",\"location\":\"US\"\x7d"
  , "\x7b\"items\":[\x7b\"name\":\"us-central10-a\",\"status\":\"UP\"\x7d,"
      ++ "\x7b\"name\":\"us-central1-a\",\"status\":\"DOWN\"\x7d],\"nextPageToken\":\"2\"\x7d"
  , "\x7b\"items\":[\x7b\"name\":\"us-central1-f\",\"status\":\"UP\"\x7d,"
      ++ "\x7b\"name\":\"us-central1-b\",\"status\":\"UP\"\x7d]\x7d"
  , "\x7b\x7d" ]

/-- Answers requests with the texts that are left, one after another. -/
def scripted : Transport (List String) := fun _ answers =>
  match answers with
  | [] => (none, [])
  | answer :: rest => (some ⟨200, answer⟩, rest)

/-- A client of the compute service at an endpoint of its own. -/
def scriptedCompute : ComputeClient :=
  ⟨⟨.compute, "http://compute.test", none⟩⟩

/-- The cloud behind clients whose requests are answered in turn. -/
def scriptedCloud : Cloud (List String) :=
  .ofClients scripted ⟨"http://metadata.test"⟩ ⟨⟨.storage, "http://storage.test", none⟩⟩
    scriptedCompute 3

/-- Parameters with a project and a scratch path, and the wish for a storage location. -/
def scratchParameters : Parameters :=
  { project := "my-project", scratchPath := "gs://scratch/logs", storageLocation := some "" }

/-- With `centralAnswers`, the first zone of the second page is taken. -/
theorem derived_zone_near_bucket_central :
    (scratchParameters.zone = "" ∧
      (∀ project zones, ⟨.zones project, .ok zones⟩ ∈
          (scratchParameters.resolvedBy scriptedCloud centralAnswers).world.2 →
        ∀ zone ∈ zones, IsZone zone.name) ∧
      ∀ location,
        BucketLies (scratchParameters.resolvedBy scriptedCloud centralAnswers).world.2 location →
          ∃ place, IsPlace place ∧ Text.lower location = Text.lower place) ∧
    (scratchParameters.resolvedBy scriptedCloud centralAnswers).result = .ok () ∧
    (scratchParameters.resolvedBy scriptedCloud centralAnswers).params.zone = "us-central1-f" ∧
    ZoneNear scratchParameters (scratchParameters.resolvedBy scriptedCloud centralAnswers).params
      "US" centralZones ∧
    ∃ before pages after,
      ComputeClient.Pages (scriptedCompute.zonePage scripted "my-project") none before pages after ∧
        centralZones = pages.flatMap (·.items) := by
  have hrun : (scratchParameters.resolvedBy scriptedCloud centralAnswers).world.2 =
        [⟨.bucketLocation "scratch", .ok "US"⟩, ⟨.zones "my-project", .ok centralZones⟩,
          ⟨.machineTypes "my-project" "us-central1-f", .ok []⟩] ∧
      (scratchParameters.resolvedBy scriptedCloud centralAnswers).result = .ok () ∧
      (scratchParameters.resolvedBy scriptedCloud centralAnswers).params.zone =
        "us-central1-f" := by
    decide +kernel
  obtain ⟨hreplies, hok, hzone⟩ := hrun
  have hlisted : ⟨.zones "my-project", .ok centralZones⟩ ∈
      (scratchParameters.resolvedBy scriptedCloud centralAnswers).world.2 := by
    rw [hreplies]
    decide
  have hlies :
      BucketLies (scratchParameters.resolvedBy scriptedCloud centralAnswers).world.2 "US" :=
    .located (by rw [hreplies]; exact List.mem_cons_self)
  have hzones : ∀ project zones, ⟨.zones project, .ok zones⟩ ∈
      (scratchParameters.resolvedBy scriptedCloud centralAnswers).world.2 →
        ∀ zone ∈ zones, IsZone zone.name := by
    intro project zones hmem
    rw [hreplies, List.mem_cons, List.mem_pair] at hmem
    have hcentral : ∀ zone ∈ centralZones, IsZone zone.name := by decide
    rcases hmem with h | h | h
    · cases h
    · cases h
      exact hcentral
    · cases h
  have hplaces : ∀ location,
      BucketLies (scratchParameters.resolvedBy scriptedCloud centralAnswers).world.2 location →
        ∃ place, IsPlace place ∧ Text.lower location = Text.lower place := by
    intro location hlies
    refine ⟨"us", .inl (by decide), ?_⟩
    cases hlies with
    | located hmem =>
        rw [hreplies, List.mem_cons, List.mem_pair] at hmem
        rcases hmem with h | h | h
        · cases h
          decide
        · cases h
        · cases h
    | created hmem =>
        rw [hreplies, List.mem_cons, List.mem_pair] at hmem
        rcases hmem with h | h | h
        · cases h
        · cases h
        · cases h
  obtain ⟨-, hnear, hpages⟩ :=
    derived_zone_near_bucket scriptedCloud scratchParameters centralAnswers rfl hzones hplaces
  exact ⟨⟨rfl, hzones, hplaces⟩, hok, hzone, (hnear _ _ _ hlies hlisted).1 hok,
    hpages _ _ _ _ _ rfl _ _ hlisted⟩

end Resolution

end ImageFlow
