import ImageFlow.Proofs.Resolve.Guarantee
import Mathlib.Data.List.Basic

/-!
# Resolving again

What a resolution that ends well leaves behind is settled: every value that was derived is taken as
it is when it is given.  So another resolution of it asks where the scratch bucket lies, lists the
machine types if no series was found, and changes nothing.
-/

namespace ImageFlow

open Location NetworkChoice
open Text (SlashFree)

namespace Resolution

/-! ## Storage locations -/

theorem dash_mem_of_regionOfZone {zone region : String} (h : regionOfZone zone = .ok region) :
    '-' ∈ region.toList := by
  rw [regionOfZone] at h
  split at h
  · split at h
    · rename_i hregion
      rw [← Except.ok.inj h]
      simpa using hregion.2
    · cases h
  · cases h

theorem BucketRegionFound.dash_mem {zone region : String} {made : List CloudReply}
    (h : BucketRegionFound zone region made) : '-' ∈ region.toList := by
  cases h with
  | ofZone _ hregion => exact dash_mem_of_regionOfZone hregion
  | answered _ _ hregion => exact dash_mem_of_regionOfZone hregion
  | blank => decide
  | unanswered => decide

/-- The storage location around the region of a zone is no blank. -/
theorem largestStorageLocation_ne_empty {region : String} (h : '-' ∈ region.toList) :
    largestStorageLocation region ≠ "" := by
  have hlower : Text.lower region ≠ "" := by
    intro hempty
    have hmem : '-' ∈ (Text.lower region).toList := by
      simpa [Text.lower] using Text.mem_lowerFrom (by decide) [] h
    rw [hempty] at hmem
    cases hmem
  simp only [largestStorageLocation]
  split
  case h_5 => exact hlower
  all_goals decide

/-- A storage location that is found is taken as it is beside the same bucket, and where it is no
blank beside any. -/
theorem locationFor_locationFor {bucketRegion again : String} (given : Option String)
    (h : again = bucketRegion ∨ largestStorageLocation bucketRegion ≠ "") :
    locationFor again (locationFor bucketRegion given) = locationFor bucketRegion given := by
  have hsame : largestStorageLocation bucketRegion = "" →
      largestStorageLocation again = largestStorageLocation bucketRegion := fun hblank =>
    congrArg largestStorageLocation (h.resolve_right (not_not_intro hblank))
  -- Only a blank is looked up again, and then it is beside the same bucket.
  simp only [locationFor, Option.map_map]
  generalize largestStorageLocation bucketRegion = widest at hsame
  congr 1
  funext location
  by_cases hlocation : location = ""
  · by_cases hwidest : widest = ""
    · simp [hlocation, hwidest, hsame hwidest]
    · simp [hlocation, hwidest]
  · simp [hlocation]

end Resolution

/-! ## Settled parameters -/

/-- Every value of the parameters is taken as it is by a resolution, but for the storage location
and the machine series, which are up to the cloud. -/
structure Parameters.Settled (p : Parameters) : Prop where
  project : p.project ≠ ""
  scratchPath : p.scratchPath ≠ ""
  region : regionOfZone p.zone = .ok p.region
  network : ¬SlashFree p.network
  subnet : p.subnet ≠ "" → ¬SlashFree p.subnet

theorem ne_empty_of_regionOfZone {zone region : String} (h : regionOfZone zone = .ok region) :
    zone ≠ "" := by
  rintro rfl
  cases h

/-- Parameters that are filled in are settled. -/
theorem Parameters.FilledIn.settled {q p : Parameters} {replies : List CloudReply}
    (h : q.FilledIn p replies) : p.Settled := by
  obtain @⟨project, scratchPath, bucketRegion, zone, region, chosen, series, byProject, byScratch,
    byZone, byNetwork, bySeries, hproject, hscratch, hzone, hregion, hnetwork, hseries⟩ := h
  constructor
  case project => exact hproject.ne_empty
  case scratchPath => exact hscratch.ne_empty
  case region => exact hregion
  case network => exact not_slashFree_networkPath _ _
  case subnet =>
    intro hsubnet
    by_cases hgiven : q.subnet = ""
    · simp [hgiven] at hsubnet
    · simpa [hgiven] using not_slashFree_subnetPath project region q.subnet

/-- The storage location that is filled in is taken as it is, beside the bucket of the scratch path
where it is given. -/
theorem Parameters.FilledIn.locationFor_eq {q p : Parameters} {replies : List CloudReply}
    {bucket object location : String} (h : q.FilledIn p replies)
    (hsplit : splitStoragePath p.scratchPath = .ok (bucket, object))
    (hsame : ∀ first, ⟨.bucketLocation bucket, .ok first⟩ ∈ replies → location = first) :
    Resolution.locationFor (Text.lower location) p.storageLocation = p.storageLocation := by
  obtain @⟨project, scratchPath, bucketRegion, zone, region, chosen, series, byProject, byScratch,
    byZone, byNetwork, bySeries, hproject, hscratch, hzone, hregion, hnetwork, hseries⟩ := h
  apply Resolution.locationFor_locationFor
  cases hscratch with
  | given hgiven hfirst =>
      obtain ⟨rfl, -⟩ := Prod.mk.inj (Except.ok.inj (hfirst.symm.trans hsplit))
      exact .inl (congrArg Text.lower (hsame _ (by simp)))
  | created _ hfound => exact .inr (Resolution.largestStorageLocation_ne_empty hfound.dash_mem)

/-! ## The steps again -/

namespace Resolution

variable {ω : Type} {cloud : Cloud ω} {r : Resolution} {world after : ω}
  {before : List CloudReply}

theorem project_again (hproject : r.params.project ≠ "") :
    (project cloud.transcribed r).outcome (world, before) = (.ok r, world, before) := by
  rw [project_of_given cloud.transcribed hproject]
  rfl

theorem scratchPath_again {bucket object location : String} (hgiven : r.params.scratchPath ≠ "")
    (hsplit : splitStoragePath r.params.scratchPath = .ok (bucket, object))
    (hlocation : cloud.reply (.bucketLocation bucket) world = (.ok location, after)) :
    (scratchPath cloud.transcribed r).outcome (world, before) =
      (.ok { r with bucketRegion := Text.lower location }, after,
        before ++ [⟨.bucketLocation bucket, .ok location⟩]) := by
  rw [scratchPath_of_given cloud.transcribed hgiven, Session.outcome_bind_eq_ok_iff]
  refine ⟨Text.lower location, _, ?_, rfl⟩
  rw [givenScratch, Session.outcome_bind_eq_ok_iff]
  refine ⟨(bucket, object), _, by rw [hsplit]; rfl, ?_⟩
  rw [Session.outcome_bind_eq_ok_iff]
  exact ⟨location, _, Session.outcome_ask_eq_ok_iff.mpr ⟨hlocation, rfl⟩, rfl⟩

theorem storageLocation_again
    (hlocation : locationFor r.bucketRegion r.params.storageLocation = r.params.storageLocation) :
    (storageLocation r : Session (ω × List CloudReply) ResolveError Resolution).outcome
      (world, before) = (.ok r, world, before) := by
  have hstep : (storageLocation r : Session (ω × List CloudReply) ResolveError Resolution) =
      pure (r.withParams fun p =>
        { p with storageLocation := locationFor r.bucketRegion p.storageLocation }) := rfl
  rw [hstep, Resolution.withParams, hlocation]
  rfl

theorem zone_again (hzone : r.params.zone ≠ "") :
    (zone cloud.transcribed r).outcome (world, before) = (.ok r, world, before) := by
  rw [zone_of_given cloud.transcribed hzone]
  rfl

theorem region_again (hregion : regionOfZone r.params.zone = .ok r.params.region) :
    (region r : Session (ω × List CloudReply) ResolveError Resolution).outcome (world, before) =
      (.ok r, world, before) := by
  rw [region, Session.outcome_bind_eq_ok_iff]
  exact ⟨r.params.region, _, by rw [hregion]; rfl, rfl⟩

theorem network_again (hnetwork : ¬SlashFree r.params.network)
    (hsubnet : r.params.subnet ≠ "" → ¬SlashFree r.params.subnet) :
    (network (.ofCloud cloud.transcribed) r).outcome (world, before) = (.ok r, world, before) := by
  have hsame : (if r.params.subnet.isEmpty then ""
      else subnetPath r.params.project r.params.region r.params.subnet) = r.params.subnet := by
    by_cases hgiven : r.params.subnet = ""
    · simp [hgiven]
    · simp [hgiven, subnetPath_of_not_slashFree (hsubnet hgiven)]
  rw [network, Session.outcome_bind_eq_ok_iff]
  refine ⟨(r.params.network, r.params.subnet), (world, before), ?_, rfl⟩
  simp only [Collaborators.ofCloud, NetworkChoice.resolve,
    choose_of_network cloud.transcribed (ne_empty_of_not_slashFree hnetwork), hsame, pure_bind,
    networkPath_of_not_slashFree hnetwork]
  rfl

theorem series_again (hseries : r.params.workerMachineSeries ≠ []) :
    (series (.ofCloud cloud.transcribed) r).outcome (world, before) = (.ok r, world, before) := by
  rw [series_of_given (.ofCloud cloud.transcribed) hseries]
  rfl

theorem series_again_of_none (hseries : r.params.workerMachineSeries = []) {offered : List String}
    (hoffered : cloud.reply (.machineTypes r.params.project r.params.zone) world =
      (.ok offered, after))
    (hnone : SeriesChoice.available offered = []) :
    (series (.ofCloud cloud.transcribed) r).outcome (world, before) =
      (.ok r, after,
        before ++ [⟨.machineTypes r.params.project r.params.zone, .ok offered⟩]) := by
  have hsame : r.withParams (fun p => { p with workerMachineSeries := [] }) = r := by
    rw [Resolution.withParams, ← hseries]
  simp only [series, hseries, List.isEmpty_nil, Bool.not_true, Bool.false_eq_true, if_false]
  rw [Session.outcome_bind_eq_ok_iff]
  refine ⟨[], _, ?_, by rw [hsame]; rfl⟩
  simp only [Collaborators.ofCloud, SeriesChoice.detect]
  rw [Session.outcome_bind_eq_ok_iff]
  refine ⟨offered, _, Session.outcome_ask_eq_ok_iff.mpr ⟨hoffered, rfl⟩, ?_⟩
  rw [hnone]
  rfl

end Resolution

/-! ## The resolution again -/

/-- The calls of another resolution: where the scratch bucket lies, and which machine types there
are if there is no series. -/
def Parameters.callsAgain (p : Parameters) (bucket : String) : List CloudCall :=
  .bucketLocation bucket ::
    if p.workerMachineSeries = [] then [.machineTypes p.project p.zone] else []

section Again

variable {ω : Type} {cloud : Cloud ω} {world between : ω} {p : Parameters}
  {bucket object location : String}

/-- The last step changes nothing, and makes the last call if there is one. -/
theorem Resolution.exists_series_again (r : Resolution) (before : List CloudReply)
    (hnone : r.params.workerMachineSeries = [] → ∃ offered after,
      cloud.reply (.machineTypes r.params.project r.params.zone) between = (.ok offered, after) ∧
        SeriesChoice.available offered = []) :
    ∃ after made,
      (series (.ofCloud cloud.transcribed) r).outcome (between, before) =
        (.ok r, after, before ++ made) ∧
      made.map (·.call) =
        if r.params.workerMachineSeries = [] then
          [.machineTypes r.params.project r.params.zone]
        else [] := by
  by_cases hseries : r.params.workerMachineSeries = []
  · obtain ⟨offered, after, hoffered, hempty⟩ := hnone hseries
    exact ⟨after, _, series_again_of_none hseries hoffered hempty, by simp [hseries]⟩
  · exact ⟨between, [], by rw [series_again hseries, List.append_nil], by simp [hseries]⟩

/-- Settled parameters are resolved to themselves. -/
theorem Parameters.Settled.resolve_again (h : p.Settled)
    (hsplit : splitStoragePath p.scratchPath = .ok (bucket, object))
    (hlocation : cloud.reply (.bucketLocation bucket) world = (.ok location, between))
    (hstorage : Resolution.locationFor (Text.lower location) p.storageLocation =
      p.storageLocation)
    (hnone : p.workerMachineSeries = [] → ∃ offered after,
      cloud.reply (.machineTypes p.project p.zone) between = (.ok offered, after) ∧
        SeriesChoice.available offered = []) :
    let again := p.resolve cloud.transcribed (.ofCloud cloud.transcribed) (world, [])
    again.result = .ok () ∧ again.params = p ∧
      again.world.2.map (·.call) = p.callsAgain bucket := by
  let r : Resolution := { params := p, bucketRegion := Text.lower location }
  obtain ⟨after, made, hseries, hcalls⟩ :=
    Resolution.exists_series_again r [⟨.bucketLocation bucket, .ok location⟩] hnone
  have htake : ((Resolution.take (Resolution.steps cloud.transcribed (.ofCloud cloud.transcribed))
      { params := p }).run (world, [])).value =
        ((r, .ok ()), after, [⟨.bucketLocation bucket, .ok location⟩] ++ made) := by
    simp only [Resolution.steps, Resolution.take_cons_eq_ok_iff, Resolution.take_nil_eq_ok_iff]
    exact ⟨_, _, Resolution.project_again h.project,
      _, _, Resolution.scratchPath_again h.scratchPath hsplit hlocation,
      _, _, Resolution.storageLocation_again hstorage,
      _, _, Resolution.zone_again (ne_empty_of_regionOfZone h.region),
      _, _, Resolution.region_again h.region,
      _, _, Resolution.network_again h.network h.subnet,
      _, _, hseries, rfl, rfl⟩
  refine ⟨?_, ?_, ?_⟩
  case refine_1 => simp only [Parameters.resolve, htake]
  case refine_2 => simp only [Parameters.resolve, htake, r]
  case refine_3 =>
    simp only [Parameters.resolve, htake, List.map_append, hcalls]
    rfl

end Again

/-- A resolution is idempotent: what one that ends well leaves behind is resolved to itself by any
cloud that says where the scratch bucket lies, as it was said before if it was asked, and that
again offers no machine series if there is none.  Nothing else is asked. -/
theorem resolve_idempotent {ω ω' : Type} (cloud : Cloud ω) (cloud' : Cloud ω') (q : Parameters)
    (world : ω) (world' between : ω') {first : Resolved (ω × List CloudReply)}
    {bucket object location : String}
    (hfirst : q.resolve cloud.transcribed (.ofCloud cloud.transcribed) (world, []) = first)
    (hok : first.result = .ok ())
    (hsplit : splitStoragePath first.params.scratchPath = .ok (bucket, object))
    (hlocation : cloud'.reply (.bucketLocation bucket) world' = (.ok location, between))
    (hsame : ∀ answer, ⟨.bucketLocation bucket, .ok answer⟩ ∈ first.world.2 → location = answer)
    (hnone : first.params.workerMachineSeries = [] → ∃ offered after,
      cloud'.reply (.machineTypes first.params.project first.params.zone) between =
          (.ok offered, after) ∧
        SeriesChoice.available offered = []) :
    let again := first.params.resolve cloud'.transcribed (.ofCloud cloud'.transcribed) (world', [])
    again.result = .ok () ∧ again.params = first.params ∧
      again.world.2.map (·.call) = first.params.callsAgain bucket := by
  subst hfirst
  have hfilled := Parameters.filledIn_of_resolve hok
  exact hfilled.settled.resolve_again hsplit hlocation (hfilled.locationFor_eq hsplit hsame) hnone

/-- A cloud that has buckets in Asia only, one subnetwork, and no machine types. -/
def asiaCloud : Cloud Unit := fun call _ =>
  match call with
  | .bucketLocation _ => (.ok "ASIA", ())
  | .zones _ => (.ok [⟨"asia-east1-b", "UP"⟩], ())
  | .subnetwork _ _ name => (.ok ⟨name, "projects/host/global/networks/shared"⟩, ())
  | .machineTypes .. => (.ok [], ())
  | _ => (.error .network, ())

/-- Parameters with a scratch path, a subnetwork, and the wish for a storage location. -/
def asiaParameters : Parameters :=
  { project := "p", scratchPath := "gs://scratch/logs", storageLocation := some ""
    subnet := "sub" }

def asiaResolved : Resolved (Unit × List CloudReply) :=
  asiaParameters.resolve asiaCloud.transcribed (.ofCloud asiaCloud.transcribed) ((), [])

/-- The location that a reply gives for a bucket. -/
def CloudReply.location? : CloudReply → Option String
  | ⟨.bucketLocation _, .ok location⟩ => some location
  | _ => none

/-- What `asiaCloud` has resolved is resolved to itself. -/
theorem resolve_idempotent_asia :
    (asiaResolved.result = .ok () ∧
      splitStoragePath asiaResolved.params.scratchPath = .ok ("scratch", "logs") ∧
      asiaResolved.world.2.filterMap CloudReply.location? = ["ASIA"]) ∧
    let again := asiaResolved.params.resolve asiaCloud.transcribed
      (.ofCloud asiaCloud.transcribed) ((), [])
    again.result = .ok () ∧ again.params = asiaResolved.params ∧
      again.world.2.map (·.call) = asiaResolved.params.callsAgain "scratch" := by
  have hfirst : asiaResolved.result = .ok () ∧
      splitStoragePath asiaResolved.params.scratchPath = .ok ("scratch", "logs") ∧
      asiaResolved.world.2.filterMap CloudReply.location? = ["ASIA"] := by
    decide +kernel
  obtain ⟨hok, hsplit, hlocations⟩ := hfirst
  refine ⟨⟨hok, hsplit, hlocations⟩, ?_⟩
  have hresolved : asiaParameters.resolve asiaCloud.transcribed (.ofCloud asiaCloud.transcribed)
      ((), []) = asiaResolved := rfl
  have hlocation : asiaCloud.reply (.bucketLocation "scratch") () = (.ok "ASIA", ()) := rfl
  have hnone : asiaResolved.params.workerMachineSeries = [] → ∃ offered after,
      asiaCloud.reply (.machineTypes asiaResolved.params.project asiaResolved.params.zone) () =
          (.ok offered, after) ∧
        SeriesChoice.available offered = [] := fun _ => ⟨[], (), rfl, by decide⟩
  refine resolve_idempotent asiaCloud asiaCloud asiaParameters () () () hresolved hok hsplit
    hlocation ?_ hnone
  intro answer hmem
  have hanswer : answer ∈ asiaResolved.world.2.filterMap CloudReply.location? :=
    List.mem_filterMap.mpr ⟨_, hmem, rfl⟩
  rw [hlocations] at hanswer
  exact (List.mem_singleton.mp hanswer).symm

end ImageFlow
