import ImageFlow.Proofs.Resolve.Stage
import Mathlib.Data.List.Infix

/-!
# Resolutions that fail fast

A resolution takes its stages in order up to the first that fails (`Resolution.Course`).  Since a
stage leaves the others alone, a resolution that fails has filled in the fields of the stages before
the failing one, as a successful one with the same answers would have, and has touched no others;
and it has asked for the operations that were due up to there, in their order.
-/

namespace ImageFlow

open Location NetworkChoice

/-- The parameters with the fields of all stages taken from other ones. -/
def Parameters.filledFrom (q p : Parameters) : Parameters :=
  { q with
    project := p.project
    zone := p.zone
    region := p.region
    scratchPath := p.scratchPath
    storageLocation := p.storageLocation
    network := p.network
    subnet := p.subnet
    workerMachineSeries := p.workerMachineSeries }

theorem NetworkChoice.Chosen.unique {network subnet region project chosen chosen' : String}
    {made : List CloudReply} (h : Chosen network subnet region project chosen made)
    (h' : Chosen network subnet region project chosen' made) : chosen = chosen' := by
  cases h with
  | given hnetwork =>
      cases h' with
      | given => rfl
      | default hempty => exact absurd hempty hnetwork
  | default hempty =>
      cases h' with
      | given hnetwork => exact absurd hempty hnetwork
      | default => rfl
  | ofSubnet => cases h'; rfl

namespace Resolution

/-! ## What the answers decide -/

section Unique

variable {project zone bucketRegion given found found' : String} {made : List CloudReply}

theorem ProjectFound.unique (h : ProjectFound given found made)
    (h' : ProjectFound given found' made) : found = found' := by
  cases h with
  | given => cases h'; rfl
  | answered => cases h'; rfl

theorem ScratchFound.unique {bucketRegion' : String}
    (h : ScratchFound project zone given found bucketRegion made)
    (h' : ScratchFound project zone given found' bucketRegion' made) :
    found = found' ∧ bucketRegion = bucketRegion' := by
  generalize hmade : made = made' at h'
  cases h with
  | given hgiven =>
      cases h' with
      | given =>
          simp only [List.cons.injEq, CloudReply.mk.injEq, CloudCall.bucketLocation.injEq,
            and_true] at hmade
          obtain ⟨rfl, hlocation⟩ := hmade
          rw [Except.ok.inj (eq_of_heq hlocation)]
          exact ⟨rfl, rfl⟩
      | created hempty => exact absurd hempty hgiven
  | created hempty =>
      cases h' with
      | given hgiven => exact absurd hempty hgiven
      | created =>
          obtain ⟨-, hcreate⟩ := List.append_inj' hmade (by simp only [List.length_singleton])
          simp only [List.cons.injEq, CloudReply.mk.injEq, CloudCall.createBucket.injEq,
            and_true, true_and] at hcreate
          obtain ⟨⟨-, rfl⟩, -⟩ := hcreate
          exact ⟨rfl, rfl⟩

theorem ZoneFound.unique (h : ZoneFound project bucketRegion given found made)
    (h' : ZoneFound project bucketRegion given found' made) : found = found' := by
  cases h with
  | given => cases h'; rfl
  | listed _ hfirst =>
      cases h' with
      | listed _ hfirst' => rw [Option.some.inj (hfirst.symm.trans hfirst')]

theorem SeriesFound.unique {given found found' : List String}
    (h : SeriesFound project zone given found made)
    (h' : SeriesFound project zone given found' made) : found = found' := by
  cases h with
  | given => cases h'; rfl
  | detected => cases h'; rfl

end Unique

/-! ## What a stage leaves alone -/

namespace Stage

variable {stage other : Stage} {q q' : Parameters} {r next next' : Resolution}
  {made : List CloudReply}

theorem pairwise_all : all.Pairwise (· < ·) := by decide

theorem Agree.symm (h : stage.Agree q q') : stage.Agree q' q := by
  cases stage with
  | network => exact ⟨h.1.symm, h.2.symm⟩
  | _ => exact Eq.symm h

/-- A stage changes the fields of no other one. -/
theorem Finds.agree (h : stage.Finds r next made) (hne : other ≠ stage) :
    other.Agree next.params r.params := by
  cases h <;> cases other <;> first
    | exact absurd rfl hne
    | exact ⟨rfl, rfl⟩
    | rfl

theorem Finds.filledFrom_eq (h : stage.Finds r next made) :
    next.params = r.params.filledFrom next.params := by
  cases h <;> rfl

/-- The answers decide what a stage finds. -/
theorem Finds.unique (h : stage.Finds r next made) (h' : stage.Finds r next' made) :
    next = next' := by
  cases h with
  | project h =>
      cases h' with
      | project h' => rw [h.unique h']
  | scratchPath h =>
      cases h' with
      | scratchPath h' =>
          obtain ⟨rfl, rfl⟩ := h.unique h'
          rfl
  | storageLocation => cases h'; rfl
  | zone h =>
      cases h' with
      | zone h' => rw [h.unique h']
  | region h =>
      cases h' with
      | region h' => rw [Except.ok.inj (h.symm.trans h')]
  | network h =>
      cases h' with
      | network h' => rw [h.unique h']
  | series h =>
      cases h' with
      | series h' => rw [h.unique h']

/-- What is due in a stage depends on no fields of stages before it. -/
theorem due_congr (h : ∀ other, stage ≤ other → other.Agree q q') : stage.due q = stage.due q' := by
  cases stage with
  | project =>
      have hproject : q.project = q'.project := h .project (by decide)
      simp only [due, hproject]
  | scratchPath =>
      have hscratch : q.scratchPath = q'.scratchPath := h .scratchPath (by decide)
      have hzone : q.zone = q'.zone := h .zone (by decide)
      simp only [due, hscratch, hzone]
  | storageLocation => rfl
  | zone =>
      have hzone : q.zone = q'.zone := h .zone (by decide)
      simp only [due, hzone]
  | region => rfl
  | network =>
      obtain ⟨hnetwork, hsubnet⟩ : q.network = q'.network ∧ q.subnet = q'.subnet :=
        h .network (by decide)
      simp only [due, hnetwork, hsubnet]
  | series =>
      have hseries : q.workerMachineSeries = q'.workerMachineSeries := h .series (by decide)
      simp only [due, hseries]

theorem ne_of_lt {a b : Stage} (h : a < b) : a ≠ b := by
  rintro rfl
  exact Nat.lt_irrefl _ h

/-- What is due in a stage stays due while the stages before it find their values. -/
theorem Finds.due_eq (h : stage.Finds r next made) (hlt : stage < other) :
    other.due next.params = other.due r.params := by
  apply due_congr
  intro later hle
  exact h.agree (ne_of_lt (Nat.lt_of_lt_of_le hlt hle)).symm

end Stage

/-- The stage in which an operation may be due. -/
def stageOf : CloudOperation → Option Stage
  | .metadataProject => some .project
  | .metadataZone | .bucketLocation | .createBucket => some .scratchPath
  | .zones => some .zone
  | .subnetwork => some .network
  | .machineTypes => some .series
  | .image | .snapshot | .createImage => none

theorem stageOf_of_mem_due {stage : Stage} {q : Parameters} {operation : CloudOperation}
    (h : operation ∈ stage.due q) : stageOf operation = some stage := by
  cases stage with
  | scratchPath =>
      by_cases hscratch : q.scratchPath = ""
      · by_cases hzone : q.zone = ""
        · simp only [Stage.due, hscratch, hzone, if_true, List.cons_append, List.nil_append,
            List.mem_cons, List.not_mem_nil, or_false] at h
          rcases h with rfl | rfl <;> rfl
        · simp only [Stage.due, hscratch, hzone, if_true, if_false, List.nil_append,
            List.mem_singleton] at h
          rw [h]
          rfl
      · simp only [Stage.due, hscratch, if_false, List.mem_singleton] at h
        rw [h]
        rfl
  | storageLocation => cases h
  | region => cases h
  | _ =>
      rw [Stage.due] at h
      split at h
      · rw [List.mem_singleton.mp h]
        rfl
      · cases h

theorem stageOf_of_prefix_due {stage : Stage} {q : Parameters} {made : List CloudReply}
    {reply : CloudReply} (h : operations made <+: stage.due q) (hreply : reply ∈ made) :
    stageOf reply.call.operation = some stage :=
  stageOf_of_mem_due (h.subset (List.mem_map_of_mem hreply))

/-! ## The course of a resolution -/

/-- Stages are taken in order up to the first that fails: what they make of a resolution, how they
end, and the calls that are made. -/
inductive Course : List Stage → Resolution → Resolution → Except ResolveError Unit →
    List CloudReply → Prop where
  | done {r : Resolution} : Course [] r r (.ok ()) []
  | failed {stage : Stage} {rest : List Stage} {r : Resolution} {failure : ResolveError}
    {made : List CloudReply} (h : stage.Fails r failure made) :
    Course (stage :: rest) r r (.error failure) made
  | found {stage : Stage} {rest : List Stage} {r middle last : Resolution}
    {result : Except ResolveError Unit} {made later : List CloudReply}
    (h : stage.Finds r middle made) (hrest : Course rest middle last result later) :
    Course (stage :: rest) r last result (made ++ later)

section Taken

variable {ω : Type} {cloud : Cloud ω}

/-- Taking steps is a course through their stages. -/
theorem course_of_take {stages : List Stage} {r last : Resolution}
    {result : Except ResolveError Unit} {world after : ω} {before replies : List CloudReply}
    (h : ((take (stages.map fun stage =>
        stage.step cloud.transcribed (.ofCloud cloud.transcribed)) r).run (world, before)).value =
      ((last, result), after, replies)) :
    ∃ made, replies = before ++ made ∧ Course stages r last result made := by
  induction stages generalizing r world before with
  | nil =>
      cases h
      exact ⟨[], by simp, .done⟩
  | cons stage rest ih =>
      let step := stage.step cloud.transcribed (.ofCloud cloud.transcribed)
      have hrun : ((step r).run.run (world, before)).value = (step r).outcome (world, before) := rfl
      rw [List.map_cons, take, StateT.run_bind, Logged.value_bind, hrun] at h
      rcases hstep : (step r).outcome (world, before) with ⟨failure | middle, between, all⟩
      · obtain ⟨made, rfl, hfails⟩ := Stage.fails_of_step hstep
        rw [hstep] at h
        cases h
        exact ⟨made, rfl, .failed hfails⟩
      · obtain ⟨made, rfl, hfinds⟩ := Stage.finds_of_step hstep
        rw [hstep] at h
        obtain ⟨later, rfl, hrest⟩ := ih h
        exact ⟨made ++ later, by simp, .found hfinds hrest⟩

/-- A resolution is a course through all stages. -/
theorem course_of_resolve (cloud : Cloud ω) (q : Parameters) (world : ω) :
    ∃ last,
      last.params = (q.resolve cloud.transcribed (.ofCloud cloud.transcribed) (world, [])).params ∧
      Course Stage.all { params := q } last
        (q.resolve cloud.transcribed (.ofCloud cloud.transcribed) (world, [])).result
        (q.resolve cloud.transcribed (.ofCloud cloud.transcribed) (world, [])).world.2 := by
  have hvalue : ((take (steps cloud.transcribed (.ofCloud cloud.transcribed)) { params := q }).run
      (world, [])).value = ((_, _), (_, _)) := rfl
  rw [Stage.steps_eq_map] at hvalue
  obtain ⟨made, hmade, hcourse⟩ := course_of_take hvalue
  rw [List.nil_append] at hmade
  subst hmade
  exact ⟨_, rfl, hcourse⟩

end Taken

namespace Course

variable {stages front back : List Stage} {stage : Stage} {q : Parameters}
  {r next next' last : Resolution} {result : Except ResolveError Unit} {failure : ResolveError}
  {made made' replies : List CloudReply}

/-- A course that fails stops at a stage, after a course through the stages before it. -/
theorem exists_stop (h : Course stages r last (.error failure) replies) :
    ∃ front stage back done begun, stages = front ++ stage :: back ∧ replies = done ++ begun ∧
      Course front r last (.ok ()) done ∧ stage.Fails last failure begun := by
  generalize hresult : Except.error failure = result at h
  induction h with
  | done => cases hresult
  | failed h =>
      cases hresult
      exact ⟨[], _, _, [], _, rfl, rfl, .done, h⟩
  | @found stage rest r middle last result made later h hrest ih =>
      obtain ⟨front, stop, back, done, begun, rfl, rfl, hfront, hfails⟩ := ih hresult
      exact ⟨stage :: front, stop, back, made ++ done, begun, rfl, by simp, .found h hfront,
        hfails⟩

/-- A course that ends well goes through its first stages first. -/
theorem split (h : Course (front ++ back) r last (.ok ()) replies) :
    ∃ middle earlier later, replies = earlier ++ later ∧
      Course front r middle (.ok ()) earlier ∧ Course back middle last (.ok ()) later := by
  induction front generalizing r replies with
  | nil => exact ⟨r, [], replies, rfl, .done, h⟩
  | cons stage front ih =>
      cases h with
      | found h hrest =>
          obtain ⟨middle, earlier, later, rfl, hfront, hback⟩ := ih hrest
          exact ⟨middle, _, later, by simp, .found h hfront, hback⟩

/-- A course changes the fields of its own stages only. -/
theorem agree (h : Course stages r last result replies) (hstage : stage ∉ stages) :
    stage.Agree last.params r.params := by
  induction h with
  | done => exact .refl _ _
  | failed => exact .refl _ _
  | found h hrest ih =>
      rw [List.mem_cons, not_or] at hstage
      exact (ih hstage.2).trans (h.agree hstage.1)

theorem filledFrom_eq (h : Course stages r last result replies) :
    last.params = r.params.filledFrom last.params := by
  induction h with
  | done => rfl
  | failed => rfl
  | @found stage rest r middle last result made later h hrest ih =>
      have hmiddle := h.filledFrom_eq
      rw [ih, hmiddle]
      rfl

/-- The answers decide what a course makes of a resolution. -/
theorem unique (h : Course stages r next (.ok ()) made)
    (h' : Course stages r next' (.ok ()) made') (hmade : made <+: replies)
    (hmade' : made' <+: replies) : next = next' := by
  induction stages generalizing r made made' replies with
  | nil =>
      cases h
      cases h'
      rfl
  | cons stage stages ih =>
      cases h with
      | @found _ _ _ middle _ _ first rest h hrest =>
          cases h' with
          | @found _ _ _ middle' _ _ first' rest' h' hrest' =>
              -- Both ask for what is due in the stage, so they make the same calls.
              have hlength : first.length = first'.length := by
                have hoperations := h.operations_eq.trans h'.operations_eq.symm
                simpa [operations] using congrArg List.length hoperations
              obtain ⟨tail, rfl⟩ := hmade
              obtain ⟨tail', htail⟩ := hmade'
              rw [List.append_assoc, List.append_assoc] at htail
              obtain ⟨rfl, hcut⟩ := List.append_inj htail hlength.symm
              obtain rfl := h.unique h'
              exact ih hrest hrest' (List.prefix_append _ tail) ⟨tail', hcut⟩

/-- The operations that a course asks for are those that are due, in their order. -/
theorem operations_prefix_due (h : Course stages r last result replies)
    (hstages : stages.Pairwise (· < ·)) :
    operations replies <+: stages.flatMap (·.due r.params) := by
  induction h with
  | done => exact List.nil_prefix
  | failed h => exact h.operations_prefix_due.trans (List.prefix_append _ _)
  | found h hrest ih =>
      obtain ⟨hlt, hrest⟩ := List.pairwise_cons.mp hstages
      rw [operations_append, List.flatMap_cons, h.operations_eq,
        ← List.flatMap_congr fun other hother => h.due_eq (hlt other hother)]
      exact List.prefix_append_right_inj _ |>.mpr (ih hrest)

/-- A course that ends well asks for everything that is due. -/
theorem operations_eq (h : Course stages r last (.ok ()) replies)
    (hstages : stages.Pairwise (· < ·)) :
    operations replies = stages.flatMap (·.due r.params) := by
  generalize hresult : Except.ok () = result at h
  induction h with
  | done => rfl
  | failed => cases hresult
  | found h hrest ih =>
      obtain ⟨hlt, hrest⟩ := List.pairwise_cons.mp hstages
      rw [operations_append, List.flatMap_cons, h.operations_eq, ih hrest hresult,
        List.flatMap_congr fun other hother => h.due_eq (hlt other hother)]

/-- A course asks for operations of its own stages only. -/
theorem stageOf_mem (h : Course stages r last result replies)
    (hstages : stages.Pairwise (· < ·)) {reply : CloudReply} (hreply : reply ∈ replies) :
    ∃ asking ∈ stages, stageOf reply.call.operation = some asking := by
  obtain ⟨asking, hasking, hdue⟩ :=
    List.mem_flatMap.mp ((h.operations_prefix_due hstages).subset (List.mem_map_of_mem hreply))
  exact ⟨asking, hasking, stageOf_of_mem_due hdue⟩

/-- A course asks for no operation of a stage before it. -/
theorem stageOf_ne (h : Course stages r last result replies)
    (hstages : (stage :: stages).Pairwise (· < ·)) :
    ∀ reply ∈ replies, stageOf reply.call.operation ≠ some stage := by
  obtain ⟨hlt, hstages⟩ := List.pairwise_cons.mp hstages
  intro reply hreply hstage
  obtain ⟨asking, hasking, hreply⟩ := h.stageOf_mem hstages hreply
  rw [hstage, Option.some.injEq] at hreply
  exact Stage.ne_of_lt (hlt asking hasking) hreply

end Course

/-! ## Buckets -/

/-- What is known where a bucket is created: the scratch path is blank, the zone that decides its
region has one, and the zone of the metadata server is asked for in finding it, if at all. -/
def Warranted (zone given : String) (made : List CloudReply) : Prop :=
  given = "" ∧ ∃ region found, BucketRegionFound zone region found ∧
    ∀ reply ∈ made, reply.call.operation = .metadataZone → reply ∈ found

theorem BucketRegionFound.warranted {zone given region : String} {found : List CloudReply}
    (h : BucketRegionFound zone region found) (hgiven : given = "") {last : CloudReply}
    (hlast : last.call.operation = .createBucket) : Warranted zone given (found ++ [last]) := by
  refine ⟨hgiven, region, found, h, ?_⟩
  intro reply hreply hzone
  rcases List.mem_append.mp hreply with hfound | hmem
  · exact hfound
  · rw [List.mem_singleton.mp hmem, hlast] at hzone
    cases hzone

theorem ScratchFound.warranted {project zone given found bucketRegion : String}
    {made : List CloudReply} (h : ScratchFound project zone given found bucketRegion made)
    (hcreated : .createBucket ∈ operations made) : Warranted zone given made := by
  cases h with
  | given => simp [CloudCall.operation] at hcreated
  | created hgiven hregion => exact hregion.warranted hgiven rfl

theorem ScratchMissed.warranted {project zone given : String} {failure : ResolveError}
    {made : List CloudReply} (h : ScratchMissed project zone given failure made)
    (hcreated : .createBucket ∈ operations made) : Warranted zone given made := by
  cases h with
  | malformed => cases hcreated
  | unlocated => simp [CloudCall.operation] at hcreated
  | unplaced _ hregion =>
      rw [hregion.operations_eq] at hcreated
      split at hcreated <;> simp at hcreated
  | uncreated hgiven hregion => exact hregion.warranted hgiven rfl

theorem Warranted.of_mem {zone given : String} {made replies : List CloudReply}
    (h : Warranted zone given made)
    (hmade : ∀ reply ∈ replies, stageOf reply.call.operation = some .scratchPath → reply ∈ made) :
    Warranted zone given replies := by
  obtain ⟨hgiven, region, found, hregion, hfound⟩ := h
  refine ⟨hgiven, region, found, hregion, ?_⟩
  intro reply hreply hzone
  exact hfound reply (hmade reply hreply (by rw [hzone]; rfl)) hzone

theorem Course.warranted_of_scratchPath {rest : List Stage} {r last : Resolution}
    {result : Except ResolveError Unit} {replies : List CloudReply}
    (h : Course (.scratchPath :: rest) r last result replies)
    (hstages : (Stage.scratchPath :: rest).Pairwise (· < ·))
    (hcreated : .createBucket ∈ operations replies) :
    Warranted r.params.zone r.params.scratchPath replies := by
  cases h with
  | failed hfails =>
      cases hfails with
      | scratchPath hmissed => exact hmissed.warranted hcreated
  | @found _ _ _ _ _ _ made later hfinds hrest =>
      have hlater := hrest.stageOf_ne hstages
      cases hfinds with
      | scratchPath hscratch =>
          obtain ⟨created, hmem, hcall⟩ := List.mem_map.mp hcreated
          have hmade := (List.mem_append.mp hmem).resolve_right fun hmem =>
            hlater created hmem (by rw [hcall]; rfl)
          apply (hscratch.warranted (hcall ▸ List.mem_map_of_mem hmade)).of_mem
          intro reply hreply hstage
          exact (List.mem_append.mp hreply).resolve_right fun hmem => hlater reply hmem hstage

/-- A bucket is created only once the project is known, and where it is warranted. -/
theorem Course.warranted {q : Parameters} {last : Resolution} {result : Except ResolveError Unit}
    {replies : List CloudReply} (h : Course Stage.all { params := q } last result replies)
    (hcreated : .createBucket ∈ operations replies) :
    last.params.project ≠ "" ∧ Warranted q.zone q.scratchPath replies := by
  obtain ⟨created, hmem, hcall⟩ := List.mem_map.mp hcreated
  have hstage : stageOf created.call.operation = some .scratchPath := by
    rw [hcall]
    rfl
  have hproject : ∀ made, operations made <+: Stage.project.due q →
      ∀ reply ∈ made, stageOf reply.call.operation ≠ some .scratchPath := by
    intro made hmade reply hreply hscratch
    rw [stageOf_of_prefix_due hmade hreply] at hscratch
    cases hscratch
  -- Nothing but the second stage asks for a zone or a bucket.
  rw [Stage.all] at h
  cases h with
  | failed hfails => exact absurd hstage (hproject _ hfails.operations_prefix_due created hmem)
  | @found _ _ _ _ _ _ byProject _ hfinds hrest =>
      have hmade := hproject byProject (by rw [hfinds.operations_eq])
      have hlater := (List.mem_append.mp hmem).resolve_left fun hmem => hmade created hmem hstage
      have hkept : Stage.project.Agree last.params _ := hrest.agree (by decide)
      have hwarranted := hrest.warranted_of_scratchPath (by decide)
        (hcall ▸ List.mem_map_of_mem hlater)
      cases hfinds with
      | project hfound =>
          refine ⟨hkept ▸ hfound.ne_empty, hwarranted.of_mem ?_⟩
          intro reply hreply hscratch
          exact (List.mem_append.mp hreply).resolve_left fun hmem => hmade reply hmem hscratch

/-- The zone that decides where a new bucket lies: the one that is given, or else the one that the
metadata server names. -/
inductive DecidingZone (given : String) (replies : List CloudReply) : String → Prop where
  | given (hgiven : given ≠ "") : DecidingZone given replies given
  | answered {answer : String} (hgiven : given = "") (hanswer : answer ≠ "")
    (hmem : ⟨.metadataZone, .ok answer⟩ ∈ replies) : DecidingZone given replies answer

/-- When a resolution of `q` that leaves `p` behind creates no bucket. -/
structure SparesBuckets (q p : Parameters) (replies : List CloudReply) : Prop where
  unknown_project : p.project = "" → .createBucket ∉ operations replies
  given_scratchPath : q.scratchPath ≠ "" → .createBucket ∉ operations replies
  malformed_zone : ∀ zone failure, DecidingZone q.zone replies zone →
    regionOfZone zone = .error failure → .createBucket ∉ operations replies

/-- A region that is found for a new bucket is that of the deciding zone. -/
theorem BucketRegionFound.regionOfZone_eq {given zone region : String}
    {found replies : List CloudReply} (h : BucketRegionFound given region found)
    (hreplies : ∀ reply ∈ replies, reply.call.operation = .metadataZone → reply ∈ found)
    (hzone : DecidingZone given replies zone) : regionOfZone zone = .ok region := by
  cases hzone with
  | given hgiven =>
      cases h with
      | ofZone _ hregion => exact hregion
      | answered hempty => exact absurd hempty hgiven
      | blank hempty => exact absurd hempty hgiven
      | unanswered hempty => exact absurd hempty hgiven
  | answered hempty hanswer hmem =>
      have hfound := hreplies _ hmem rfl
      cases h with
      | ofZone hgiven => exact absurd hempty hgiven
      | answered _ _ hregion =>
          cases List.mem_singleton.mp hfound
          exact hregion
      | blank =>
          cases List.mem_singleton.mp hfound
          exact absurd rfl hanswer
      | unanswered => cases List.mem_singleton.mp hfound

theorem Course.sparesBuckets {q : Parameters} {last : Resolution}
    {result : Except ResolveError Unit} {replies : List CloudReply}
    (h : Course Stage.all { params := q } last result replies) :
    SparesBuckets q last.params replies where
  unknown_project hempty hcreated := (h.warranted hcreated).1 hempty
  given_scratchPath hgiven hcreated := hgiven (h.warranted hcreated).2.1
  malformed_zone zone failure hzone hregion hcreated := by
    obtain ⟨-, -, region, found, hfound, hreplies⟩ := h.warranted hcreated
    rw [hfound.regionOfZone_eq hreplies hzone] at hregion
    cases hregion

/-! ## Failing fast -/

/-- What holds of a resolution of `q` that fails and leaves `p` behind: it stops at a stage, with
the calls `done` before that stage and the calls `begun` in it. -/
structure StopsAt (before : List Stage) (stage : Stage) (after : List Stage) (q p : Parameters)
    (failure : ResolveError) (done begun : List CloudReply) : Prop where
  stages : Stage.all = before ++ stage :: after
  /-- The stages before it find their values, and it fails with what they have found. -/
  stopped : ∃ last, last.params = p ∧ Course before { params := q } last (.ok ()) done ∧
    stage.Fails last failure begun
  /-- The operations that are asked for are those that are due, in the order of all stages. -/
  operations_prefix_due : operations (done ++ begun) <+: Stage.all.flatMap (·.due q)
  /-- The stages before it ask for everything that is due. -/
  operations_done : operations done = before.flatMap (·.due q)
  /-- No operation of a stage after it is asked for. -/
  stageOf_ne : ∀ reply ∈ done ++ begun, ∀ later ∈ after,
    stageOf reply.call.operation ≠ some later
  /-- Its fields and those of the stages after it are as they were given. -/
  later_kept : ∀ later ∈ stage :: after, later.Agree p q
  /-- So is everything that is the field of no stage. -/
  others_kept : p = q.filledFrom p
  /-- The fields of the stages before it are as a resolution leaves them that ends well and is
  answered the same before the stage. -/
  earlier_found : ∀ {ω : Type} (cloud : Cloud ω) (world : ω),
    (q.resolve cloud.transcribed (.ofCloud cloud.transcribed) (world, [])).result = .ok () →
    done <+: (q.resolve cloud.transcribed (.ofCloud cloud.transcribed) (world, [])).world.2 →
    ∀ earlier ∈ before, earlier.Agree p
      (q.resolve cloud.transcribed (.ofCloud cloud.transcribed) (world, [])).params

/-- A course that fails stops at a stage. -/
theorem Course.exists_stopsAt {q : Parameters} {last : Resolution} {failure : ResolveError}
    {replies : List CloudReply}
    (h : Course Stage.all { params := q } last (.error failure) replies) :
    ∃ before stage after done begun, replies = done ++ begun ∧
      StopsAt before stage after q last.params failure done begun := by
  obtain ⟨before, stage, after, done, begun, hall, rfl, hdone, hfails⟩ := h.exists_stop
  obtain ⟨hbefore, hafter, hlt⟩ := List.pairwise_append.mp (hall ▸ Stage.pairwise_all)
  refine ⟨before, stage, after, done, begun, rfl, ?_⟩
  constructor
  case stages => exact hall
  case stopped => exact ⟨last, rfl, hdone, hfails⟩
  case operations_prefix_due => exact h.operations_prefix_due Stage.pairwise_all
  case operations_done => exact hdone.operations_eq hbefore
  case stageOf_ne =>
    intro reply hreply later hlater hstage
    rcases List.mem_append.mp hreply with hmem | hmem
    · obtain ⟨asking, hasking, hreply⟩ := hdone.stageOf_mem hbefore hmem
      rw [hreply, Option.some.injEq] at hstage
      exact Stage.ne_of_lt (hlt asking hasking later (List.mem_cons_of_mem _ hlater)) hstage
    · rw [stageOf_of_prefix_due hfails.operations_prefix_due hmem, Option.some.injEq] at hstage
      exact Stage.ne_of_lt ((List.pairwise_cons.mp hafter).1 later hlater) hstage
  case later_kept =>
    intro later hlater
    exact hdone.agree fun hearlier => Stage.ne_of_lt (hlt later hearlier later hlater) rfl
  case others_kept => exact h.filledFrom_eq
  case earlier_found =>
    intro ω cloud world hok hdone' earlier hearlier
    -- The resolution that ends well first takes the same stages, with the same answers.
    obtain ⟨found, hparams, hcourse⟩ := course_of_resolve cloud q world
    rw [hok, hall] at hcourse
    obtain ⟨middle, made, rest, hmade, hfront, hback⟩ := hcourse.split
    rw [hmade] at hdone'
    obtain rfl := hdone.unique hfront hdone' (List.prefix_append made rest)
    rw [← hparams]
    apply (hback.agree ?_).symm
    intro hlater
    exact Stage.ne_of_lt (hlt earlier hearlier earlier hlater) rfl

/-- A resolution fails fast: it stops at the first stage that fails, and creates no bucket for a
project that it does not know, beside a scratch path that is given, or for a zone that has no
region. -/
theorem resolve_fails_fast {ω : Type} (cloud : Cloud ω) (q : Parameters) (world : ω) :
    (∀ failure,
      (q.resolve cloud.transcribed (.ofCloud cloud.transcribed) (world, [])).result =
          .error failure →
        ∃ before stage after done begun,
          (q.resolve cloud.transcribed (.ofCloud cloud.transcribed) (world, [])).world.2 =
              done ++ begun ∧
            StopsAt before stage after q
              (q.resolve cloud.transcribed (.ofCloud cloud.transcribed) (world, [])).params failure
              done begun) ∧
    SparesBuckets q
      (q.resolve cloud.transcribed (.ofCloud cloud.transcribed) (world, [])).params
      (q.resolve cloud.transcribed (.ofCloud cloud.transcribed) (world, [])).world.2 := by
  obtain ⟨last, hparams, hcourse⟩ := course_of_resolve cloud q world
  rw [← hparams]
  refine ⟨?_, hcourse.sparesBuckets⟩
  intro failure hfailure
  rw [hfailure] at hcourse
  exact hcourse.exists_stopsAt

/-- A cloud whose only zone is out of use. -/
def downZoneCloud : Cloud Unit := fun call _ =>
  match call with
  | .metadataProject => (.ok "meta", ())
  | .createBucket .. => (.ok (), ())
  | .zones _ => (.ok [⟨"us-central1-a", "DOWN"⟩], ())
  | _ => (.error .network, ())

/-- Blank parameters stop `downZoneCloud` at the zone, after a bucket is created. -/
theorem resolve_fails_fast_downZone :
    ((({} : Parameters).resolve downZoneCloud.transcribed (.ofCloud downZoneCloud.transcribed)
        ((), [])).result = .error (.noZone "us-central1" "meta") ∧
      operations (({} : Parameters).resolve downZoneCloud.transcribed
        (.ofCloud downZoneCloud.transcribed) ((), [])).world.2 =
          [.metadataProject, .metadataZone, .createBucket, .zones]) ∧
    ∃ before stage after done begun,
      (({} : Parameters).resolve downZoneCloud.transcribed (.ofCloud downZoneCloud.transcribed)
          ((), [])).world.2 = done ++ begun ∧
        StopsAt before stage after {}
          (({} : Parameters).resolve downZoneCloud.transcribed
            (.ofCloud downZoneCloud.transcribed) ((), [])).params
          (.noZone "us-central1" "meta") done begun := by
  have hrun : (({} : Parameters).resolve downZoneCloud.transcribed
      (.ofCloud downZoneCloud.transcribed) ((), [])).result =
        .error (.noZone "us-central1" "meta") ∧
      operations (({} : Parameters).resolve downZoneCloud.transcribed
        (.ofCloud downZoneCloud.transcribed) ((), [])).world.2 =
          [.metadataProject, .metadataZone, .createBucket, .zones] := by
    decide +kernel
  exact ⟨hrun, (resolve_fails_fast downZoneCloud {} ()).1 _ hrun.1⟩

end Resolution

end ImageFlow
