import ImageFlow.Proofs.Resolve.Filling
import Mathlib.Data.List.Basic

/-!
# The stages of a resolution

A resolution goes through seven stages.  A stage finds the values of its own fields, or it fails; a
relation for each of the two also lists the calls that are made.  What a stage means for the others
is then said in three facts: it leaves their fields and the operations that are due in them alone,
it asks for the operations that are due in it and for no others, and the answers decide what it
finds.
-/

namespace ImageFlow

open Location NetworkChoice

/-! ## Operations -/

/-- An operation of the cloud, whatever it is asked about. -/
inductive CloudOperation where
  | metadataProject
  | metadataZone
  | bucketLocation
  | createBucket
  | zones
  | machineTypes
  | image
  | snapshot
  | subnetwork
  | createImage
  deriving DecidableEq

def CloudCall.operation : CloudCall → CloudOperation
  | metadataProject => .metadataProject
  | metadataZone => .metadataZone
  | bucketLocation _ => .bucketLocation
  | createBucket .. => .createBucket
  | zones _ => .zones
  | machineTypes .. => .machineTypes
  | image .. => .image
  | snapshot .. => .snapshot
  | subnetwork .. => .subnetwork
  | createImage .. => .createImage

def operations (replies : List CloudReply) : List CloudOperation :=
  replies.map (·.call.operation)

@[simp]
theorem operations_nil : operations [] = [] := rfl

@[simp]
theorem operations_cons (reply : CloudReply) (rest : List CloudReply) :
    operations (reply :: rest) = reply.call.operation :: operations rest := rfl

@[simp]
theorem operations_append (earlier later : List CloudReply) :
    operations (earlier ++ later) = operations earlier ++ operations later :=
  List.map_append

namespace Resolution

/-! ## Stages -/

/-- A step of a resolution, by the fields that it fills in. -/
inductive Stage where
  | project
  | scratchPath
  | storageLocation
  | zone
  | region
  | network
  | series
  deriving DecidableEq

namespace Stage

def all : List Stage :=
  [project, scratchPath, storageLocation, zone, region, network, series]

def place : Stage → Nat
  | project => 0
  | scratchPath => 1
  | storageLocation => 2
  | zone => 3
  | region => 4
  | network => 5
  | series => 6

instance : LT Stage := ⟨fun a b => a.place < b.place⟩

instance : LE Stage := ⟨fun a b => a.place ≤ b.place⟩

instance (a b : Stage) : Decidable (a < b) := inferInstanceAs (Decidable (a.place < b.place))

instance (a b : Stage) : Decidable (a ≤ b) := inferInstanceAs (Decidable (a.place ≤ b.place))

/-- The parameters have the same values in the fields of a stage. -/
def Agree (p p' : Parameters) : Stage → Prop
  | project => p.project = p'.project
  | scratchPath => p.scratchPath = p'.scratchPath
  | storageLocation => p.storageLocation = p'.storageLocation
  | zone => p.zone = p'.zone
  | region => p.region = p'.region
  | network => p.network = p'.network ∧ p.subnet = p'.subnet
  | series => p.workerMachineSeries = p'.workerMachineSeries

theorem Agree.refl (stage : Stage) (p : Parameters) : stage.Agree p p := by
  cases stage with
  | network => exact ⟨rfl, rfl⟩
  | _ => rfl

theorem Agree.trans {stage : Stage} {p p' p'' : Parameters} (h : stage.Agree p p')
    (h' : stage.Agree p' p'') : stage.Agree p p'' := by
  cases stage with
  | network => exact ⟨h.1.trans h'.1, h.2.trans h'.2⟩
  | _ => exact Eq.trans h h'

/-- The operations that are due in a stage, as far as the parameters leave a blank. -/
def due (q : Parameters) : Stage → List CloudOperation
  | project => if q.project = "" then [.metadataProject] else []
  | scratchPath =>
    if q.scratchPath = "" then
      (if q.zone = "" then [.metadataZone] else []) ++ [.createBucket]
    else [.bucketLocation]
  | zone => if q.zone = "" then [.zones] else []
  | network => if q.network = "" ∧ q.subnet ≠ "" then [.subnetwork] else []
  | series => if q.workerMachineSeries = [] then [.machineTypes] else []
  | storageLocation | region => []

def step {ω : Type} (cloud : Cloud ω) (collaborators : Collaborators ω) :
    Stage → ResolutionStep ω
  | project => Resolution.project cloud
  | scratchPath => Resolution.scratchPath cloud
  | storageLocation => Resolution.storageLocation
  | zone => Resolution.zone cloud
  | region => Resolution.region
  | network => Resolution.network collaborators
  | series => Resolution.series collaborators

theorem steps_eq_map {ω : Type} (cloud : Cloud ω) (collaborators : Collaborators ω) :
    steps cloud collaborators = all.map (step cloud collaborators) := rfl

end Stage

/-! ## How a stage fails -/

inductive ProjectMissed (given : String) : ResolveError → List CloudReply → Prop where
  | blank (hgiven : given = "") :
    ProjectMissed given .missingProject [⟨.metadataProject, .ok ""⟩]
  | unanswered (hgiven : given = "") (source : ClientError) :
    ProjectMissed given .missingProject [⟨.metadataProject, .error source⟩]

/-- The region for a new bucket is not found: the zone that is given, or else that of the metadata
server, has none. -/
inductive BucketRegionMissed (zone : String) : ResolveError → List CloudReply → Prop where
  | ofZone {failure : ResolveError} (hzone : zone ≠ "")
    (hregion : regionOfZone zone = .error failure) : BucketRegionMissed zone failure []
  | answered {answer : String} {failure : ResolveError} (hzone : zone = "") (hanswer : answer ≠ "")
    (hregion : regionOfZone answer = .error failure) :
    BucketRegionMissed zone failure [⟨.metadataZone, .ok answer⟩]

/-- The scratch path is of no use, or none is made. -/
inductive ScratchMissed (project zone given : String) :
    ResolveError → List CloudReply → Prop where
  | malformed {failure : ResolveError} (hgiven : given ≠ "")
    (hsplit : splitStoragePath given = .error failure) :
    ScratchMissed project zone given failure []
  | unlocated {bucket object : String} (hgiven : given ≠ "")
    (hsplit : splitStoragePath given = .ok (bucket, object)) (source : ClientError) :
    ScratchMissed project zone given (.client source) [⟨.bucketLocation bucket, .error source⟩]
  | unplaced {failure : ResolveError} {made : List CloudReply} (hgiven : given = "")
    (hregion : BucketRegionMissed zone failure made) :
    ScratchMissed project zone given failure made
  | uncreated {region : String} {made : List CloudReply} (hgiven : given = "")
    (hregion : BucketRegionFound zone region made) (source : ClientError) :
    ScratchMissed project zone given (.client source)
      (made ++
        [⟨.createBucket project (scratchBucketName project region) region, .error source⟩])

inductive ZoneMissed (project bucketRegion given : String) :
    ResolveError → List CloudReply → Prop where
  | unlisted (hgiven : given = "") (source : ClientError) :
    ZoneMissed project bucketRegion given (.client source) [⟨.zones project, .error source⟩]
  | unusable {zones : List Zone} (hgiven : given = "")
    (hnone : zones.find? (isUsable (representativeRegion bucketRegion)) = none) :
    ZoneMissed project bucketRegion given (.noZone (representativeRegion bucketRegion) project)
      [⟨.zones project, .ok zones⟩]

/-- The network of the subnetwork is not found. -/
inductive NetworkMissed (network subnet region project : String) :
    ResolveError → List CloudReply → Prop where
  | unanswered (hnetwork : network = "") (hsubnet : subnet ≠ "") (source : ClientError) :
    NetworkMissed network subnet region project (.client source)
      [⟨.subnetwork project region (lastSegment subnet), .error source⟩]

/-- No machine types are listed. -/
inductive SeriesMissed (project zone : String) (given : List String) :
    ResolveError → List CloudReply → Prop where
  | unlisted (hgiven : given = []) (source : ClientError) :
    SeriesMissed project zone given (.client source)
      [⟨.machineTypes project zone, .error source⟩]

namespace Stage

/-- What a stage makes of a resolution, and the calls that it makes. -/
inductive Finds : Stage → Resolution → Resolution → List CloudReply → Prop where
  | project {r : Resolution} {found : String} {made : List CloudReply}
    (h : ProjectFound r.params.project found made) :
    Finds .project r (r.withParams fun p => { p with project := found }) made
  | scratchPath {r : Resolution} {found bucketRegion : String} {made : List CloudReply}
    (h : ScratchFound r.params.project r.params.zone r.params.scratchPath found bucketRegion
      made) :
    Finds .scratchPath r
      { r.withParams fun p => { p with scratchPath := found } with bucketRegion } made
  | storageLocation {r : Resolution} :
    Finds .storageLocation r
      (r.withParams fun p =>
        { p with storageLocation := locationFor r.bucketRegion p.storageLocation }) []
  | zone {r : Resolution} {found : String} {made : List CloudReply}
    (h : ZoneFound r.params.project r.bucketRegion r.params.zone found made) :
    Finds .zone r (r.withParams fun p => { p with zone := found }) made
  | region {r : Resolution} {found : String} (h : regionOfZone r.params.zone = .ok found) :
    Finds .region r (r.withParams fun p => { p with region := found }) []
  | network {r : Resolution} {chosen : String} {made : List CloudReply}
    (h : Chosen r.params.network r.params.subnet r.params.region r.params.project chosen made) :
    Finds .network r
      (r.withParams fun p =>
        { p with
          network := networkPath p.project chosen
          subnet := if p.subnet.isEmpty then "" else subnetPath p.project p.region p.subnet })
      made
  | series {r : Resolution} {found : List String} {made : List CloudReply}
    (h : SeriesFound r.params.project r.params.zone r.params.workerMachineSeries found made) :
    Finds .series r (r.withParams fun p => { p with workerMachineSeries := found }) made

/-- How a stage fails, and the calls that it makes before. -/
inductive Fails : Stage → Resolution → ResolveError → List CloudReply → Prop where
  | project {r : Resolution} {failure : ResolveError} {made : List CloudReply}
    (h : ProjectMissed r.params.project failure made) : Fails .project r failure made
  | scratchPath {r : Resolution} {failure : ResolveError} {made : List CloudReply}
    (h : ScratchMissed r.params.project r.params.zone r.params.scratchPath failure made) :
    Fails .scratchPath r failure made
  | zone {r : Resolution} {failure : ResolveError} {made : List CloudReply}
    (h : ZoneMissed r.params.project r.bucketRegion r.params.zone failure made) :
    Fails .zone r failure made
  | region {r : Resolution} {failure : ResolveError}
    (h : regionOfZone r.params.zone = .error failure) : Fails .region r failure []
  | network {r : Resolution} {failure : ResolveError} {made : List CloudReply}
    (h : NetworkMissed r.params.network r.params.subnet r.params.region r.params.project failure
      made) :
    Fails .network r failure made
  | series {r : Resolution} {failure : ResolveError} {made : List CloudReply}
    (h : SeriesMissed r.params.project r.params.zone r.params.workerMachineSeries failure made) :
    Fails .series r failure made

end Stage

/-! ## The outcome of a step -/

section Outcome

variable {ω : Type} {cloud : Cloud ω} {r next : Resolution} {world after : ω}
  {before replies : List CloudReply} {failure : ResolveError}

theorem project_eq_error
    (h : (project cloud.transcribed r).outcome (world, before) = (.error failure, after, replies)) :
    ∃ made, replies = before ++ made ∧ ProjectMissed r.params.project failure made := by
  by_cases hgiven : r.params.project = ""
  · simp only [project, hgiven] at h
    rcases Session.outcome_bind_eq_error_iff.mp h with hask | ⟨answer, ⟨_, _⟩, hask, hrest⟩
    · exact absurd hask Session.outcome_attempt_ne_error
    · obtain ⟨-, rfl⟩ := Session.outcome_attempt_eq_ok_iff.mp hask
      cases answer with
      | error source =>
          cases hrest
          exact ⟨_, rfl, .unanswered hgiven source⟩
      | ok found =>
          by_cases hfound : found = ""
          · subst hfound
            cases hrest
            exact ⟨_, rfl, .blank hgiven⟩
          · simp only [hfound, String.isEmpty_iff, if_false] at hrest
            cases hrest
  · rw [project_of_given cloud.transcribed hgiven] at h
    cases h

theorem bucketRegionFor_eq_error {zone : String}
    (h : (bucketRegionFor cloud.transcribed zone).outcome (world, before) =
      (.error failure, after, replies)) :
    ∃ made, replies = before ++ made ∧ BucketRegionMissed zone failure made := by
  by_cases hzone : zone = ""
  · simp only [bucketRegionFor, hzone] at h
    rcases Session.outcome_bind_eq_error_iff.mp h with hask | ⟨answer, ⟨_, _⟩, hask, hrest⟩
    · exact absurd hask Session.outcome_attempt_ne_error
    · obtain ⟨-, rfl⟩ := Session.outcome_attempt_eq_ok_iff.mp hask
      cases answer with
      | error source => cases hrest
      | ok answer =>
          by_cases hanswer : answer = ""
          · subst hanswer
            cases hrest
          · simp only [hanswer, String.isEmpty_iff, if_false, Session.outcome_lift,
              Prod.mk.injEq] at hrest
            obtain ⟨hregion, -, rfl⟩ := hrest
            exact ⟨_, rfl, .answered hzone hanswer hregion⟩
  · have hstep : bucketRegionFor cloud.transcribed zone =
        ExceptT.mk (pure (regionOfZone zone)) := by simp [bucketRegionFor, hzone]
    rw [hstep, Session.outcome_lift, Prod.mk.injEq, Prod.mk.injEq] at h
    obtain ⟨hregion, -, rfl⟩ := h
    exact ⟨[], by simp, .ofZone hzone hregion⟩

theorem givenScratch_eq_error {project zone path : String} (hgiven : path ≠ "")
    (h : (givenScratch cloud.transcribed path).outcome (world, before) =
      (.error failure, after, replies)) :
    ∃ made, replies = before ++ made ∧ ScratchMissed project zone path failure made := by
  rcases Session.outcome_bind_eq_error_iff.mp h with
    hsplit | ⟨⟨bucket, object⟩, ⟨_, _⟩, hsplit, hrest⟩
  · rw [Session.outcome_lift, Prod.mk.injEq, Prod.mk.injEq] at hsplit
    obtain ⟨hsplit, -, rfl⟩ := hsplit
    exact ⟨[], by simp, .malformed hgiven hsplit⟩
  · rw [Session.outcome_lift, Prod.mk.injEq, Prod.mk.injEq] at hsplit
    obtain ⟨hsplit, rfl, rfl⟩ := hsplit
    rcases Session.outcome_bind_eq_error_iff.mp hrest with hask | ⟨_, ⟨_, _⟩, -, hpure⟩
    · obtain ⟨source, -, rfl, rfl⟩ := Session.outcome_ask_eq_error_iff.mp hask
      exact ⟨_, rfl, .unlocated hgiven hsplit source⟩
    · cases hpure

theorem scratchPath_eq_error
    (h : (scratchPath cloud.transcribed r).outcome (world, before) =
      (.error failure, after, replies)) :
    ∃ made, replies = before ++ made ∧
      ScratchMissed r.params.project r.params.zone r.params.scratchPath failure made := by
  by_cases hgiven : r.params.scratchPath = ""
  · simp only [scratchPath, hgiven] at h
    rcases Session.outcome_bind_eq_error_iff.mp h with hfor | ⟨region, ⟨_, _⟩, hfor, hrest⟩
    · obtain ⟨made, rfl, hregion⟩ := bucketRegionFor_eq_error hfor
      exact ⟨made, rfl, .unplaced hgiven hregion⟩
    · obtain ⟨made, rfl, hregion⟩ := bucketRegionFor_eq_ok hfor
      rcases Session.outcome_bind_eq_error_iff.mp hrest with hask | ⟨_, ⟨_, _⟩, -, hrest⟩
      · obtain ⟨source, -, rfl, rfl⟩ := Session.outcome_ask_eq_error_iff.mp hask
        exact ⟨_, List.append_assoc _ _ _, .uncreated hgiven hregion source⟩
      · cases hrest
  · rw [scratchPath_of_given cloud.transcribed hgiven] at h
    rcases Session.outcome_bind_eq_error_iff.mp h with hscratch | ⟨_, ⟨_, _⟩, -, hpure⟩
    · exact givenScratch_eq_error hgiven hscratch
    · cases hpure

theorem zone_eq_error
    (h : (zone cloud.transcribed r).outcome (world, before) = (.error failure, after, replies)) :
    ∃ made, replies = before ++ made ∧
      ZoneMissed r.params.project r.bucketRegion r.params.zone failure made := by
  by_cases hgiven : r.params.zone = ""
  · simp only [zone, hgiven] at h
    rcases Session.outcome_bind_eq_error_iff.mp h with hfirst | ⟨_, ⟨_, _⟩, -, hpure⟩
    · rcases Session.outcome_bind_eq_error_iff.mp hfirst with hask | ⟨zones, ⟨_, _⟩, hask, hrest⟩
      · obtain ⟨source, -, rfl, rfl⟩ := Session.outcome_ask_eq_error_iff.mp hask
        exact ⟨_, rfl, .unlisted hgiven source⟩
      · obtain ⟨-, rfl⟩ := Session.outcome_ask_eq_ok_iff.mp hask
        cases hfind : zones.find? (isUsable (representativeRegion r.bucketRegion)) with
        | none =>
            simp only [hfind, Session.outcome_throw, Prod.mk.injEq, Except.error.injEq] at hrest
            obtain ⟨rfl, -, rfl⟩ := hrest
            exact ⟨_, rfl, .unusable hgiven hfind⟩
        | some zone =>
            simp only [hfind] at hrest
            cases hrest
    · cases hpure
  · rw [zone_of_given cloud.transcribed hgiven] at h
    cases h

theorem region_eq_error
    (h : (region r).outcome (world, before) = (.error failure, after, replies)) :
    replies = before ∧ regionOfZone r.params.zone = .error failure := by
  rcases Session.outcome_bind_eq_error_iff.mp h with hregion | ⟨_, ⟨_, _⟩, -, hpure⟩
  · rw [Session.outcome_lift, Prod.mk.injEq, Prod.mk.injEq] at hregion
    exact ⟨hregion.2.2.symm, hregion.1⟩
  · cases hpure

theorem choose_eq_error {network subnet region project : String}
    (h : (choose cloud.transcribed network subnet region project).outcome (world, before) =
      (.error failure, after, replies)) :
    ∃ made, replies = before ++ made ∧
      NetworkMissed network subnet region project failure made := by
  by_cases hnetwork : network = ""
  · subst hnetwork
    by_cases hsubnet : subnet = ""
    · subst hsubnet
      cases h
    · rw [choose_of_subnet cloud.transcribed hsubnet] at h
      rcases Session.outcome_bind_eq_error_iff.mp h with hask | ⟨_, ⟨_, _⟩, -, hrest⟩
      · obtain ⟨source, -, rfl, rfl⟩ := Session.outcome_ask_eq_error_iff.mp hask
        exact ⟨_, rfl, .unanswered rfl hsubnet source⟩
      · cases hrest
  · rw [choose_of_network cloud.transcribed hnetwork] at h
    cases h

theorem network_eq_error
    (h : (network (.ofCloud cloud.transcribed) r).outcome (world, before) =
      (.error failure, after, replies)) :
    ∃ made, replies = before ++ made ∧
      NetworkMissed r.params.network r.params.subnet r.params.region r.params.project failure
        made := by
  rcases Session.outcome_bind_eq_error_iff.mp h with hresolve | ⟨_, ⟨_, _⟩, -, hpure⟩
  · rcases Session.outcome_bind_eq_error_iff.mp hresolve with hchoose | ⟨_, ⟨_, _⟩, -, hpure⟩
    · exact choose_eq_error hchoose
    · cases hpure
  · cases hpure

theorem series_eq_error
    (h : (series (.ofCloud cloud.transcribed) r).outcome (world, before) =
      (.error failure, after, replies)) :
    ∃ made, replies = before ++ made ∧
      SeriesMissed r.params.project r.params.zone r.params.workerMachineSeries failure made := by
  by_cases hgiven : r.params.workerMachineSeries = []
  · simp only [series, hgiven] at h
    rcases Session.outcome_bind_eq_error_iff.mp h with hdetect | ⟨_, ⟨_, _⟩, -, hpure⟩
    · rcases Session.outcome_bind_eq_error_iff.mp hdetect with hask | ⟨_, ⟨_, _⟩, -, hrest⟩
      · obtain ⟨source, -, rfl, rfl⟩ := Session.outcome_ask_eq_error_iff.mp hask
        exact ⟨_, rfl, .unlisted hgiven source⟩
      · cases hrest
    · cases hpure
  · rw [series_of_given (.ofCloud cloud.transcribed) hgiven] at h
    cases h

namespace Stage

variable {stage : Stage}

/-- A step that ends well finds what its stage finds. -/
theorem finds_of_step
    (h : (stage.step cloud.transcribed (.ofCloud cloud.transcribed) r).outcome (world, before) =
      (.ok next, after, replies)) :
    ∃ made, replies = before ++ made ∧ stage.Finds r next made := by
  cases stage with
  | project =>
      obtain ⟨found, made, rfl, hfound, rfl⟩ := project_eq_ok h
      exact ⟨made, rfl, .project hfound⟩
  | scratchPath =>
      obtain ⟨found, bucketRegion, made, rfl, hfound, rfl⟩ := scratchPath_eq_ok h
      exact ⟨made, rfl, .scratchPath hfound⟩
  | storageLocation =>
      obtain ⟨rfl, rfl⟩ := storageLocation_eq_ok h
      exact ⟨[], by simp, .storageLocation⟩
  | zone =>
      obtain ⟨found, made, rfl, hfound, rfl⟩ := zone_eq_ok h
      exact ⟨made, rfl, .zone hfound⟩
  | region =>
      obtain ⟨found, rfl, hfound, rfl⟩ := region_eq_ok h
      exact ⟨[], by simp, .region hfound⟩
  | network =>
      obtain ⟨chosen, made, rfl, hchosen, rfl⟩ := network_eq_ok h
      exact ⟨made, rfl, .network hchosen⟩
  | series =>
      obtain ⟨found, made, rfl, hfound, rfl⟩ := series_eq_ok h
      exact ⟨made, rfl, .series hfound⟩

/-- A step that fails does so as its stage fails. -/
theorem fails_of_step
    (h : (stage.step cloud.transcribed (.ofCloud cloud.transcribed) r).outcome (world, before) =
      (.error failure, after, replies)) :
    ∃ made, replies = before ++ made ∧ stage.Fails r failure made := by
  cases stage with
  | project =>
      obtain ⟨made, rfl, hmissed⟩ := project_eq_error h
      exact ⟨made, rfl, .project hmissed⟩
  | scratchPath =>
      obtain ⟨made, rfl, hmissed⟩ := scratchPath_eq_error h
      exact ⟨made, rfl, .scratchPath hmissed⟩
  | storageLocation => cases h
  | zone =>
      obtain ⟨made, rfl, hmissed⟩ := zone_eq_error h
      exact ⟨made, rfl, .zone hmissed⟩
  | region =>
      obtain ⟨rfl, hmissed⟩ := region_eq_error h
      exact ⟨[], by simp, .region hmissed⟩
  | network =>
      obtain ⟨made, rfl, hmissed⟩ := network_eq_error h
      exact ⟨made, rfl, .network hmissed⟩
  | series =>
      obtain ⟨made, rfl, hmissed⟩ := series_eq_error h
      exact ⟨made, rfl, .series hmissed⟩

end Stage

end Outcome

/-! ## What a stage asks -/

theorem BucketRegionFound.operations_eq {zone region : String} {made : List CloudReply}
    (h : BucketRegionFound zone region made) :
    operations made = if zone = "" then [.metadataZone] else [] := by
  cases h with
  | ofZone hzone => simp [hzone]
  | answered hzone => simp [hzone, CloudCall.operation]
  | blank hzone => simp [hzone, CloudCall.operation]
  | unanswered hzone => simp [hzone, CloudCall.operation]

theorem BucketRegionMissed.operations_eq {zone : String} {failure : ResolveError}
    {made : List CloudReply} (h : BucketRegionMissed zone failure made) :
    operations made = if zone = "" then [.metadataZone] else [] := by
  cases h with
  | ofZone hzone => simp [hzone]
  | answered hzone => simp [hzone, CloudCall.operation]

namespace Stage

variable {stage : Stage} {r next : Resolution} {failure : ResolveError} {made : List CloudReply}

/-- A stage that finds its values asks for what is due in it. -/
theorem Finds.operations_eq (h : stage.Finds r next made) :
    operations made = stage.due r.params := by
  cases h with
  | project h => cases h <;> simp [due, CloudCall.operation, *]
  | scratchPath h =>
      cases h with
      | given hgiven => simp [due, hgiven, CloudCall.operation]
      | created hgiven hregion => simp [due, hgiven, hregion.operations_eq, CloudCall.operation]
  | storageLocation => rfl
  | zone h => cases h <;> simp [due, CloudCall.operation, *]
  | region h => rfl
  | network h => cases h <;> simp [due, CloudCall.operation, *]
  | series h => cases h <;> simp [due, CloudCall.operation, *]

/-- A stage that fails has asked for what is due in it, up to where it failed. -/
theorem Fails.operations_prefix_due (h : stage.Fails r failure made) :
    operations made <+: stage.due r.params := by
  cases h with
  | project h => cases h <;> simp [due, CloudCall.operation, *]
  | scratchPath h =>
      cases h with
      | malformed => exact List.nil_prefix
      | unlocated hgiven => simp [due, hgiven, CloudCall.operation]
      | unplaced hgiven hregion => simp [due, hgiven, hregion.operations_eq]
      | uncreated hgiven hregion => simp [due, hgiven, hregion.operations_eq, CloudCall.operation]
  | zone h => cases h <;> simp [due, CloudCall.operation, *]
  | region h => exact List.nil_prefix
  | network h => cases h; simp [due, CloudCall.operation, *]
  | series h => cases h; simp [due, CloudCall.operation, *]

end Stage

end Resolution

end ImageFlow
