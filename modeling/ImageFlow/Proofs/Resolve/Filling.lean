import ImageFlow.Proofs.Resolve.Subnetwork
import ImageFlow.Resolve.Resolver

/-!
# How blanks are filled in

Each step of a resolution that ends well finds one thing: it is given, or it follows from what the
cloud answers.  This is said by one relation for each step, which also lists the calls that the
step makes.  A whole resolution that ends well is the seven steps in their order, each with what
the steps before it have found (`Parameters.FilledIn`).
-/

namespace ImageFlow

open Location NetworkChoice

namespace Resolution

inductive ProjectFound (given : String) : String → List CloudReply → Prop where
  | given (hgiven : given ≠ "") : ProjectFound given given []
  /-- The project of the metadata server. -/
  | answered {project : String} (hgiven : given = "") (hproject : project ≠ "") :
    ProjectFound given project [⟨.metadataProject, .ok project⟩]

/-- The region that is found for a new bucket. -/
inductive BucketRegionFound (zone : String) : String → List CloudReply → Prop where
  | ofZone {region : String} (hzone : zone ≠ "") (hregion : regionOfZone zone = .ok region) :
    BucketRegionFound zone region []
  /-- The region of the zone of the metadata server. -/
  | answered {answer region : String} (hzone : zone = "") (hanswer : answer ≠ "")
    (hregion : regionOfZone answer = .ok region) :
    BucketRegionFound zone region [⟨.metadataZone, .ok answer⟩]
  /-- The default region, where the metadata server names no zone. -/
  | blank (hzone : zone = "") :
    BucketRegionFound zone defaultRegion [⟨.metadataZone, .ok ""⟩]
  /-- The default region, where the metadata server fails. -/
  | unanswered (hzone : zone = "") (failure : ClientError) :
    BucketRegionFound zone defaultRegion [⟨.metadataZone, .error failure⟩]

def bucketPath (bucket : String) : String :=
  "gs://" ++ bucket ++ "/"

/-- The scratch path that is found, and the region of its bucket. -/
inductive ScratchFound (project zone given : String) :
    String → String → List CloudReply → Prop where
  | given {bucket object location : String} (hgiven : given ≠ "")
    (hsplit : splitStoragePath given = .ok (bucket, object)) :
    ScratchFound project zone given given (Text.lower location)
      [⟨.bucketLocation bucket, .ok location⟩]
  /-- The path of a new bucket. -/
  | created {region : String} {made : List CloudReply} (hgiven : given = "")
    (hregion : BucketRegionFound zone region made) :
    ScratchFound project zone given (bucketPath (scratchBucketName project region)) region
      (made ++ [⟨.createBucket project (scratchBucketName project region) region, .ok ()⟩])

theorem ProjectFound.ne_empty {given found : String} {made : List CloudReply}
    (h : ProjectFound given found made) : found ≠ "" := by
  cases h with
  | given hgiven => exact hgiven
  | answered _ hfound => exact hfound

theorem ScratchFound.ne_empty {project zone given found bucketRegion : String}
    {made : List CloudReply} (h : ScratchFound project zone given found bucketRegion made) :
    found ≠ "" := by
  cases h with
  | given hgiven => exact hgiven
  | created =>
      intro hempty
      simpa [bucketPath] using congrArg String.toList hempty

def locationFor (bucketRegion : String) (given : Option String) : Option String :=
  given.map fun location =>
    if location.isEmpty then largestStorageLocation bucketRegion else location

/-- The zone that is found. -/
inductive ZoneFound (project bucketRegion given : String) :
    String → List CloudReply → Prop where
  | given (hgiven : given ≠ "") : ZoneFound project bucketRegion given given []
  /-- The first usable zone of the listing. -/
  | listed {zones : List Zone} {zone : Zone} (hgiven : given = "")
    (hfirst : zones.find? (isUsable (representativeRegion bucketRegion)) = some zone) :
    ZoneFound project bucketRegion given zone.name [⟨.zones project, .ok zones⟩]

inductive SeriesFound (project zone : String) (given : List String) :
    List String → List CloudReply → Prop where
  | given (hgiven : given ≠ []) : SeriesFound project zone given given []
  /-- The series that can be used where these machine types are offered. -/
  | detected (hgiven : given = []) (offered : List String) :
    SeriesFound project zone given (SeriesChoice.available offered)
      [⟨.machineTypes project zone, .ok offered⟩]

end Resolution

/-- The parameters with every blank filled in, and the calls that are made for it. -/
inductive Parameters.FilledIn (q : Parameters) : Parameters → List CloudReply → Prop where
  | intro {project scratchPath bucketRegion zone region chosen : String} {series : List String}
    {byProject byScratch byZone byNetwork bySeries : List CloudReply}
    (hproject : Resolution.ProjectFound q.project project byProject)
    (hscratch :
      Resolution.ScratchFound project q.zone q.scratchPath scratchPath bucketRegion byScratch)
    (hzone : Resolution.ZoneFound project bucketRegion q.zone zone byZone)
    (hregion : regionOfZone zone = .ok region)
    (hnetwork : Chosen q.network q.subnet region project chosen byNetwork)
    (hseries : Resolution.SeriesFound project zone q.workerMachineSeries series bySeries) :
    FilledIn q
      { q with
        project
        scratchPath
        storageLocation := Resolution.locationFor bucketRegion q.storageLocation
        zone
        region
        network := networkPath project chosen
        subnet := if q.subnet.isEmpty then "" else subnetPath project region q.subnet
        workerMachineSeries := series }
      (byProject ++ (byScratch ++ (byZone ++ (byNetwork ++ bySeries))))

namespace Resolution

variable {ω : Type} {cloud : Cloud ω} {r next : Resolution} {world after : ω}
  {before replies : List CloudReply}

/-! ## Values that are given -/

theorem project_of_given (cloud : Cloud ω) (hgiven : r.params.project ≠ "") :
    project cloud r = pure r := by
  simp [project, hgiven]

theorem scratchPath_of_given (cloud : Cloud ω) (hgiven : r.params.scratchPath ≠ "") :
    scratchPath cloud r =
      (do
        let region ← givenScratch cloud r.params.scratchPath
        return { r with bucketRegion := region }) := by
  simp [scratchPath, hgiven]

theorem zone_of_given (cloud : Cloud ω) (hgiven : r.params.zone ≠ "") :
    zone cloud r = pure r := by
  simp [zone, hgiven]

theorem series_of_given (collaborators : Collaborators ω)
    (hgiven : r.params.workerMachineSeries ≠ []) : series collaborators r = pure r := by
  simp [series, hgiven]

/-! ## One step -/

theorem project_eq_ok
    (h : (project cloud.transcribed r).outcome (world, before) = (.ok next, after, replies)) :
    ∃ found made, replies = before ++ made ∧ ProjectFound r.params.project found made ∧
      next = r.withParams fun p => { p with project := found } := by
  by_cases hgiven : r.params.project = ""
  · simp only [project, hgiven] at h
    obtain ⟨answer, ⟨_, _⟩, hask, hrest⟩ := Session.outcome_bind_eq_ok_iff.mp h
    obtain ⟨-, rfl⟩ := Session.outcome_attempt_eq_ok_iff.mp hask
    cases answer with
    | error failure => cases hrest
    | ok found =>
        by_cases hfound : found = ""
        · simp [hfound] at hrest
        · simp only [hfound, String.isEmpty_iff, if_false] at hrest
          obtain ⟨_, _, htell, hpure⟩ := Session.outcome_bind_eq_ok_iff.mp hrest
          cases htell
          cases hpure
          exact ⟨found, _, rfl, .answered hgiven hfound, rfl⟩
  · rw [project_of_given cloud.transcribed hgiven] at h
    cases h
    exact ⟨r.params.project, [], by simp, .given hgiven, rfl⟩

theorem bucketRegionFor_eq_ok {zone region : String}
    (h : (bucketRegionFor cloud.transcribed zone).outcome (world, before) =
      (.ok region, after, replies)) :
    ∃ made, replies = before ++ made ∧ BucketRegionFound zone region made := by
  by_cases hzone : zone = ""
  · simp only [bucketRegionFor, hzone] at h
    obtain ⟨answer, ⟨_, _⟩, hask, hrest⟩ := Session.outcome_bind_eq_ok_iff.mp h
    obtain ⟨-, rfl⟩ := Session.outcome_attempt_eq_ok_iff.mp hask
    cases answer with
    | error failure =>
        cases hrest
        exact ⟨_, rfl, .unanswered hzone failure⟩
    | ok answer =>
        by_cases hanswer : answer = ""
        · subst hanswer
          cases hrest
          exact ⟨_, rfl, .blank hzone⟩
        · simp only [hanswer, String.isEmpty_iff, if_false, Session.outcome_lift,
            Prod.mk.injEq] at hrest
          obtain ⟨hregion, -, rfl⟩ := hrest
          exact ⟨_, rfl, .answered hzone hanswer hregion⟩
  · have hstep : bucketRegionFor cloud.transcribed zone =
        ExceptT.mk (pure (regionOfZone zone)) := by simp [bucketRegionFor, hzone]
    rw [hstep, Session.outcome_lift, Prod.mk.injEq, Prod.mk.injEq] at h
    obtain ⟨hregion, -, rfl⟩ := h
    exact ⟨[], by simp, .ofZone hzone hregion⟩

theorem scratchPath_eq_ok
    (h : (scratchPath cloud.transcribed r).outcome (world, before) = (.ok next, after, replies)) :
    ∃ path region made, replies = before ++ made ∧
      ScratchFound r.params.project r.params.zone r.params.scratchPath path region made ∧
        next = { r.withParams fun p => { p with scratchPath := path } with
          bucketRegion := region } := by
  by_cases hgiven : r.params.scratchPath = ""
  · simp only [scratchPath, hgiven] at h
    obtain ⟨region, ⟨_, _⟩, hfor, hrest⟩ := Session.outcome_bind_eq_ok_iff.mp h
    obtain ⟨made, rfl, hregion⟩ := bucketRegionFor_eq_ok hfor
    obtain ⟨_, ⟨_, _⟩, hask, hrest⟩ := Session.outcome_bind_eq_ok_iff.mp hrest
    obtain ⟨-, rfl⟩ := Session.outcome_ask_eq_ok_iff.mp hask
    obtain ⟨_, _, htell, hpure⟩ := Session.outcome_bind_eq_ok_iff.mp hrest
    cases htell
    cases hpure
    exact ⟨_, region, _, List.append_assoc _ _ _, .created hgiven hregion, rfl⟩
  · rw [scratchPath_of_given cloud.transcribed hgiven] at h
    obtain ⟨region, ⟨_, _⟩, hscratch, hpure⟩ := Session.outcome_bind_eq_ok_iff.mp h
    cases hpure
    obtain ⟨⟨bucket, object⟩, ⟨_, _⟩, hsplit, hrest⟩ := Session.outcome_bind_eq_ok_iff.mp hscratch
    obtain ⟨location, ⟨_, _⟩, hask, hpure⟩ := Session.outcome_bind_eq_ok_iff.mp hrest
    obtain ⟨-, rfl⟩ := Session.outcome_ask_eq_ok_iff.mp hask
    cases hpure
    rw [Session.outcome_lift, Prod.mk.injEq, Prod.mk.injEq] at hsplit
    obtain ⟨hsplit, rfl, rfl⟩ := hsplit
    exact ⟨_, _, _, rfl, .given hgiven hsplit, rfl⟩

theorem zone_eq_ok
    (h : (zone cloud.transcribed r).outcome (world, before) = (.ok next, after, replies)) :
    ∃ found made, replies = before ++ made ∧
      ZoneFound r.params.project r.bucketRegion r.params.zone found made ∧
        next = r.withParams fun p => { p with zone := found } := by
  by_cases hgiven : r.params.zone = ""
  · simp only [zone, hgiven] at h
    obtain ⟨found, ⟨_, _⟩, hfirst, hpure⟩ := Session.outcome_bind_eq_ok_iff.mp h
    cases hpure
    obtain ⟨zones, ⟨_, _⟩, hask, hrest⟩ := Session.outcome_bind_eq_ok_iff.mp hfirst
    obtain ⟨-, rfl⟩ := Session.outcome_ask_eq_ok_iff.mp hask
    cases hfind : zones.find? (isUsable (representativeRegion r.bucketRegion)) with
    | none => simp [hfind] at hrest
    | some zone =>
        simp only [hfind] at hrest
        obtain ⟨_, _, htell, hpure⟩ := Session.outcome_bind_eq_ok_iff.mp hrest
        cases htell
        cases hpure
        exact ⟨zone.name, _, rfl, .listed hgiven hfind, rfl⟩
  · rw [zone_of_given cloud.transcribed hgiven] at h
    cases h
    exact ⟨r.params.zone, [], by simp, .given hgiven, rfl⟩

theorem storageLocation_eq_ok
    (h : (storageLocation r).outcome (world, before) = (.ok next, after, replies)) :
    replies = before ∧ next = r.withParams fun p =>
      { p with storageLocation := locationFor r.bucketRegion p.storageLocation } := by
  cases h
  exact ⟨rfl, rfl⟩

theorem region_eq_ok
    (h : (region r).outcome (world, before) = (.ok next, after, replies)) :
    ∃ found, replies = before ∧ regionOfZone r.params.zone = .ok found ∧
      next = r.withParams fun p => { p with region := found } := by
  obtain ⟨found, ⟨_, _⟩, hregion, hpure⟩ := Session.outcome_bind_eq_ok_iff.mp h
  cases hpure
  rw [Session.outcome_lift, Prod.mk.injEq, Prod.mk.injEq] at hregion
  exact ⟨found, hregion.2.2.symm, hregion.1, rfl⟩

theorem network_eq_ok
    (h : (network (.ofCloud cloud.transcribed) r).outcome (world, before) =
      (.ok next, after, replies)) :
    ∃ chosen made, replies = before ++ made ∧
      Chosen r.params.network r.params.subnet r.params.region r.params.project chosen made ∧
        next = r.withParams fun p =>
          { p with
            network := networkPath p.project chosen
            subnet := if p.subnet.isEmpty then "" else subnetPath p.project p.region p.subnet } := by
  obtain ⟨found, ⟨_, _⟩, hresolve, hpure⟩ := Session.outcome_bind_eq_ok_iff.mp h
  cases hpure
  obtain ⟨chosen, made, hmade, hchosen, rfl⟩ := NetworkChoice.resolve_eq_ok hresolve
  exact ⟨chosen, made, hmade, hchosen, rfl⟩

theorem series_eq_ok
    (h : (series (.ofCloud cloud.transcribed) r).outcome (world, before) =
      (.ok next, after, replies)) :
    ∃ found made, replies = before ++ made ∧
      SeriesFound r.params.project r.params.zone r.params.workerMachineSeries found made ∧
        next = r.withParams fun p => { p with workerMachineSeries := found } := by
  by_cases hgiven : r.params.workerMachineSeries = []
  · simp only [series, hgiven] at h
    obtain ⟨found, ⟨_, _⟩, hdetect, hpure⟩ := Session.outcome_bind_eq_ok_iff.mp h
    cases hpure
    obtain ⟨offered, ⟨_, _⟩, hask, hrest⟩ := Session.outcome_bind_eq_ok_iff.mp hdetect
    obtain ⟨-, rfl⟩ := Session.outcome_ask_eq_ok_iff.mp hask
    obtain ⟨_, _, htell, hpure⟩ := Session.outcome_bind_eq_ok_iff.mp hrest
    cases htell
    cases hpure
    exact ⟨_, _, rfl, .detected hgiven offered, rfl⟩
  · rw [series_of_given (.ofCloud cloud.transcribed) hgiven] at h
    cases h
    exact ⟨r.params.workerMachineSeries, [], by simp, .given hgiven, rfl⟩

/-! ## All steps -/

/-- Steps all end well exactly when the first one does, and the others do after it. -/
theorem take_cons_eq_ok_iff {step : ResolutionStep ω} {steps : List (ResolutionStep ω)}
    {world after : ω} :
    ((take (step :: steps) r).run world).value = ((next, .ok ()), after) ↔
      ∃ middle between, (step r).outcome world = (.ok middle, between) ∧
        ((take steps middle).run between).value = ((next, .ok ()), after) := by
  have hrun : ((step r).run.run world).value = (step r).outcome world := rfl
  rw [take, StateT.run_bind, Logged.value_bind, hrun]
  rcases (step r).outcome world with ⟨failure | middle, between⟩
  · simp
  · simp [and_assoc]

theorem take_nil_eq_ok_iff {world after : ω} :
    ((take [] r).run world).value = ((next, .ok ()), after) ↔ next = r ∧ after = world := by
  have htake : ((take [] r).run world).value = ((r, .ok ()), world) := rfl
  rw [htake]
  simp [eq_comm]

/-- The steps of a resolution fill in every blank. -/
theorem filledIn_of_take {q : Parameters}
    (h : ((take (steps cloud.transcribed (.ofCloud cloud.transcribed)) { params := q }).run
      (world, [])).value = ((next, .ok ()), (after, replies))) :
    q.FilledIn next.params replies := by
  simp only [steps, take_cons_eq_ok_iff, take_nil_eq_ok_iff] at h
  obtain ⟨_, ⟨_, _⟩, h₁, _, ⟨_, _⟩, h₂, _, ⟨_, _⟩, h₃, _, ⟨_, _⟩, h₄, _, ⟨_, _⟩, h₅,
    _, ⟨_, _⟩, h₆, _, ⟨_, _⟩, h₇, rfl, hreplies⟩ := h
  obtain ⟨project, byProject, rfl, hproject, rfl⟩ := project_eq_ok h₁
  obtain ⟨path, bucketRegion, byScratch, rfl, hscratch, rfl⟩ := scratchPath_eq_ok h₂
  obtain ⟨rfl, rfl⟩ := storageLocation_eq_ok h₃
  obtain ⟨zone, byZone, rfl, hzone, rfl⟩ := zone_eq_ok h₄
  obtain ⟨region, rfl, hregion, rfl⟩ := region_eq_ok h₅
  obtain ⟨chosen, byNetwork, rfl, hnetwork, rfl⟩ := network_eq_ok h₆
  obtain ⟨found, bySeries, rfl, hseries, rfl⟩ := series_eq_ok h₇
  cases hreplies
  simp only [List.append_assoc]
  exact .intro hproject hscratch hzone hregion hnetwork hseries

end Resolution

/-- A resolution that ends well fills in every blank. -/
theorem Parameters.filledIn_of_resolve {ω : Type} {cloud : Cloud ω} {q : Parameters} {world : ω}
    (h : (q.resolve cloud.transcribed (.ofCloud cloud.transcribed) (world, [])).result = .ok ()) :
    q.FilledIn
      (q.resolve cloud.transcribed (.ofCloud cloud.transcribed) (world, [])).params
      (q.resolve cloud.transcribed (.ofCloud cloud.transcribed) (world, [])).world.2 := by
  have hvalue : ((Resolution.take (Resolution.steps cloud.transcribed
      (.ofCloud cloud.transcribed)) { params := q }).run (world, [])).value =
        ((_, .ok ()), (_, _)) := Prod.ext (Prod.ext rfl h) rfl
  exact Resolution.filledIn_of_take hvalue

end ImageFlow
