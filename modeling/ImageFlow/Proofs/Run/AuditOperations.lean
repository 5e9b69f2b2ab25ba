import ImageFlow.Proofs.Run.Audit
import Mathlib.Data.List.Chain

/-!
# Records under all operations

A record is written by events, by opening attempts and by closing the last one.  The operations may
come in any order, senseless ones included.  `Sound` is what every one of them keeps: the
transitions are a way through the states of a run, on which a terminal state can only stand last,
and the record is completed when it does.  What is final is said apart: the end of a run, and every
attempt that another one follows.
-/

namespace ImageFlow

namespace RunState

/-- The ways from one state of a run to another. -/
inductive Leads : RunState → RunState → Prop where
  | started : Leads init running
  | restarted : Leads retrying running
  | repeated : Leads running retrying
  | succeeded : Leads running succeeded
  | failed {state : RunState} (hgoing : state.isTerminal = false) : Leads state failed

theorem Leads.ne {before after : RunState} (h : before.Leads after) : before ≠ after := by
  cases h with
  | failed hgoing =>
      rintro rfl
      cases hgoing
  | _ => decide

theorem leads_next {state : RunState} {event : RunEvent} (h : state.next event ≠ state) :
    state.Leads (state.next event) := by
  cases event with
  | start =>
      cases state with
      | init => exact .started
      | retrying => exact .restarted
      | _ => exact absurd rfl h
  | retry =>
      cases state with
      | running => exact .repeated
      | _ => exact absurd rfl h
  | succeed =>
      cases state with
      | running => exact .succeeded
      | _ => exact absurd rfl h
  | fail =>
      cases state with
      | succeeded => exact absurd rfl h
      | failed => exact absurd rfl h
      | _ => exact .failed rfl

end RunState

inductive AuditOperation where
  | record (event : RunEvent)
  | beginAttempt (number : Nat) (workflowName : String)
  | finishAttempt (error : Option String) (retryRequestedBy : List String)

def AuditOperation.event? : AuditOperation → Option RunEvent
  | record event => some event
  | _ => none

namespace Audit

def perform (audit : Audit) (now : Timestamp) : AuditOperation → Audit
  | .record event => audit.record event now
  | .beginAttempt number workflowName => audit.beginAttempt number workflowName now
  | .finishAttempt error retryRequestedBy => audit.finishAttempt error retryRequestedBy now

def performAll (audit : Audit) (steps : List (Timestamp × AuditOperation)) : Audit :=
  steps.foldl (fun audit step => audit.perform step.1 step.2) audit

/-- What every operation keeps of a record. -/
structure Sound (audit : Audit) : Prop where
  begins : audit.stateTransitions.head? = some .init
  ends : audit.stateTransitions.getLast? = some audit.state
  neighbours : audit.stateTransitions.IsChain fun before after =>
    before.Leads after ∧ before ≠ after
  terminal_last : ∀ state ∈ audit.stateTransitions.dropLast, state.isTerminal = false
  completed_iff : audit.completedAt.isSome = true ↔ audit.state.isTerminal = true
  duration_iff : audit.duration.isSome = true ↔ audit.state.isTerminal = true

/-- Two records of one run tell the same about its states and its end. -/
structure SameCourse (audit audit' : Audit) : Prop where
  state_eq : audit'.state = audit.state
  stateTransitions_eq : audit'.stateTransitions = audit.stateTransitions
  completedAt_eq : audit'.completedAt = audit.completedAt
  duration_eq : audit'.duration = audit.duration

variable {audit audit' : Audit}

theorem SameCourse.refl (audit : Audit) : SameCourse audit audit :=
  ⟨rfl, rfl, rfl, rfl⟩

theorem SameCourse.trans {audit'' : Audit} (h : SameCourse audit audit')
    (h' : SameCourse audit' audit'') : SameCourse audit audit'' :=
  ⟨h'.state_eq.trans h.state_eq, h'.stateTransitions_eq.trans h.stateTransitions_eq,
    h'.completedAt_eq.trans h.completedAt_eq, h'.duration_eq.trans h.duration_eq⟩

theorem SameCourse.sound (h : SameCourse audit audit') (hsound : audit.Sound) : audit'.Sound := by
  obtain ⟨hstate, htransitions, hcompleted, hduration⟩ := h
  constructor
  · rw [htransitions]
    exact hsound.begins
  · rw [htransitions, hstate]
    exact hsound.ends
  · rw [htransitions]
    exact hsound.neighbours
  · rw [htransitions]
    exact hsound.terminal_last
  · rw [hcompleted, hstate]
    exact hsound.completed_iff
  · rw [hduration, hstate]
    exact hsound.duration_iff

theorem sameCourse_beginAttempt (audit : Audit) (number : Nat) (workflowName : String)
    (now : Timestamp) : SameCourse audit (audit.beginAttempt number workflowName now) :=
  ⟨rfl, rfl, rfl, rfl⟩

theorem sameCourse_finishAttempt (audit : Audit) (error : Option String) (requested : List String)
    (now : Timestamp) : SameCourse audit (audit.finishAttempt error requested now) :=
  ⟨rfl, rfl, rfl, rfl⟩

/-! ## Events -/

theorem record_eq_self {event : RunEvent} (hsame : audit.state.next event = audit.state)
    (now : Timestamp) : audit.record event now = audit := by
  rw [record, if_pos hsame]

/-- A record of an ended run ignores every event. -/
theorem record_of_isTerminal (hended : audit.state.isTerminal = true) (event : RunEvent)
    (now : Timestamp) : audit.record event now = audit :=
  record_eq_self (RunState.next_eq_self_of_isTerminal hended event) now

/-- An event that leads on completes the record exactly if it leads to a terminal state. -/
theorem completion_record_of_ne {event : RunEvent} (hmoved : audit.state.next event ≠ audit.state)
    (now : Timestamp) :
    ((audit.record event now).completedAt, (audit.record event now).duration) =
      if (audit.state.next event).isTerminal then (some now, some (now - audit.startedAt))
      else (audit.completedAt, audit.duration) := by
  rw [record, if_neg hmoved]
  by_cases hterminal : (audit.state.next event).isTerminal = true
  · simp [hterminal]
  · simp [hterminal]

theorem Sound.isTerminal_eq_false (h : audit.Sound) (hgoing : audit.state.isTerminal = false) :
    ∀ state ∈ audit.stateTransitions, state.isTerminal = false := by
  intro state hstate
  have hsplit : audit.stateTransitions.dropLast ++ [audit.state] = audit.stateTransitions :=
    List.dropLast_append_getLast? _ h.ends
  rw [← hsplit, List.mem_append, List.mem_singleton] at hstate
  rcases hstate with hearlier | rfl
  · exact h.terminal_last state hearlier
  · exact hgoing

theorem Sound.record (h : audit.Sound) (event : RunEvent) (now : Timestamp) :
    (audit.record event now).Sound := by
  by_cases hsame : audit.state.next event = audit.state
  · rw [record_eq_self hsame]
    exact h
  · have hgoing : audit.state.isTerminal = false := by
      rw [Bool.eq_false_iff]
      intro hended
      exact hsame (RunState.next_eq_self_of_isTerminal hended event)
    have hleads := RunState.leads_next hsame
    have htransitions := stateTransitions_record_of_ne audit event now hsame
    have hopen : audit.completedAt.isSome = false ∧ audit.duration.isSome = false := by
      rw [Bool.eq_false_iff, Bool.eq_false_iff, ne_eq, ne_eq, h.completed_iff, h.duration_iff]
      simp [hgoing]
    have hcompletion := completion_record_of_ne hsame now
    rw [Prod.mk.injEq] at hcompletion
    constructor
    · rw [htransitions, List.head?_append, h.begins]
      rfl
    · rw [htransitions, state_record, List.getLast?_concat]
    · rw [htransitions, List.isChain_append]
      refine ⟨h.neighbours, .singleton _, ?_⟩
      intro last hlast first hfirst
      rw [h.ends, Option.mem_some_iff] at hlast
      rw [List.head?_singleton, Option.mem_some_iff] at hfirst
      rw [← hlast, ← hfirst]
      exact ⟨hleads, hleads.ne⟩
    · rw [htransitions, List.dropLast_concat]
      exact h.isTerminal_eq_false hgoing
    · rw [hcompletion.1, state_record]
      cases hterminal : (audit.state.next event).isTerminal with
      | true => simp
      | false => simp [hopen.1]
    · rw [hcompletion.2, state_record]
      cases hterminal : (audit.state.next event).isTerminal with
      | true => simp
      | false => simp [hopen.2]

/-! ## Operations -/

theorem Sound.perform (h : audit.Sound) (now : Timestamp) (operation : AuditOperation) :
    (audit.perform now operation).Sound := by
  cases operation with
  | record event => exact h.record event now
  | beginAttempt number workflowName =>
      exact (audit.sameCourse_beginAttempt number workflowName now).sound h
  | finishAttempt error requested =>
      exact (audit.sameCourse_finishAttempt error requested now).sound h

theorem SameCourse.perform (hended : audit.state.isTerminal = true) (now : Timestamp)
    (operation : AuditOperation) : SameCourse audit (audit.perform now operation) := by
  cases operation with
  | record event =>
      have hsame : audit.perform now (.record event) = audit :=
        record_of_isTerminal hended event now
      rw [hsame]
      exact .refl audit
  | beginAttempt number workflowName => exact audit.sameCourse_beginAttempt number workflowName now
  | finishAttempt error requested => exact audit.sameCourse_finishAttempt error requested now

theorem state_perform (audit : Audit) (now : Timestamp) (operation : AuditOperation) :
    (audit.perform now operation).state =
      operation.event?.toList.foldl RunState.next audit.state := by
  cases operation with
  | record event => exact audit.state_record event now
  | _ => rfl

theorem origin_perform (audit : Audit) (now : Timestamp) (operation : AuditOperation) :
    (audit.perform now operation).executionId = audit.executionId ∧
      (audit.perform now operation).startedAt = audit.startedAt := by
  cases operation with
  | record event =>
      change (audit.record event now).executionId = audit.executionId ∧
        (audit.record event now).startedAt = audit.startedAt
      rw [Audit.record]
      split
      · exact ⟨rfl, rfl⟩
      · split
        · exact ⟨rfl, rfl⟩
        · exact ⟨rfl, rfl⟩
  | _ => exact ⟨rfl, rfl⟩

theorem dropLast_changeLast {α : Type} (f : α → α) (items : List α) :
    (changeLast f items).dropLast = items.dropLast := by
  rcases List.eq_nil_or_concat items with rfl | ⟨front, last, rfl⟩
  · rfl
  · rw [List.concat_eq_append, changeLast_append_singleton, List.dropLast_concat,
      List.dropLast_concat]

/-- No operation changes an attempt but the last one. -/
theorem dropLast_attempts_perform (audit : Audit) (now : Timestamp) (operation : AuditOperation) :
    audit.attempts.dropLast <+: (audit.perform now operation).attempts.dropLast := by
  cases operation with
  | record event =>
      have hsame : audit.attempts = (audit.perform now (.record event)).attempts :=
        (audit.attempts_record event now).symm
      exact hsame ▸ List.prefix_refl _
  | beginAttempt number workflowName =>
      have hopened : (audit.perform now (.beginAttempt number workflowName)).attempts.dropLast =
          audit.attempts := List.dropLast_concat
      rw [hopened]
      exact List.dropLast_prefix audit.attempts
  | finishAttempt error requested =>
      have hclosed : audit.attempts.dropLast =
          (audit.perform now (.finishAttempt error requested)).attempts.dropLast :=
        (dropLast_changeLast _ audit.attempts).symm
      exact hclosed ▸ List.prefix_refl _

/-! ## Sequences of operations -/

variable (steps : List (Timestamp × AuditOperation))

@[simp]
theorem performAll_cons (audit : Audit) (step : Timestamp × AuditOperation) :
    audit.performAll (step :: steps) = (audit.perform step.1 step.2).performAll steps := rfl

theorem sound_begin (executionId : String) (now : Timestamp) :
    (Audit.begin executionId now).Sound where
  begins := rfl
  ends := rfl
  neighbours := .singleton _
  terminal_last := by simp [Audit.begin]
  completed_iff := by simp [Audit.begin, RunState.isTerminal]
  duration_iff := by simp [Audit.begin, RunState.isTerminal]

theorem Sound.performAll (h : audit.Sound) : (audit.performAll steps).Sound := by
  induction steps generalizing audit with
  | nil => exact h
  | cons step steps ih => exact ih (h.perform step.1 step.2)

theorem SameCourse.performAll (hended : audit.state.isTerminal = true) :
    SameCourse audit (audit.performAll steps) := by
  induction steps generalizing audit with
  | nil => exact .refl audit
  | cons step steps ih =>
      have hfirst := SameCourse.perform hended step.1 step.2
      have hstill : (audit.perform step.1 step.2).state.isTerminal = true := by
        rw [hfirst.state_eq]
        exact hended
      exact hfirst.trans (ih hstill)

theorem state_performAll :
    (audit.performAll steps).state =
      (steps.filterMap (·.2.event?)).foldl RunState.next audit.state := by
  induction steps generalizing audit with
  | nil => rfl
  | cons step steps ih =>
      rw [performAll_cons, ih, state_perform, ← List.foldl_append, List.filterMap_cons]
      cases step.2.event? <;> rfl

theorem origin_performAll :
    (audit.performAll steps).executionId = audit.executionId ∧
      (audit.performAll steps).startedAt = audit.startedAt := by
  induction steps generalizing audit with
  | nil => exact ⟨rfl, rfl⟩
  | cons step steps ih =>
      obtain ⟨hid, hstarted⟩ := audit.origin_perform step.1 step.2
      rw [performAll_cons, ← hid, ← hstarted]
      exact ih

theorem dropLast_attempts_performAll :
    audit.attempts.dropLast <+: (audit.performAll steps).attempts := by
  induction steps generalizing audit with
  | nil => exact List.dropLast_prefix audit.attempts
  | cons step steps ih => exact (audit.dropLast_attempts_perform step.1 step.2).trans ih

/-- A new record stays sound under all operations in every order, and its state is the one that the
events lead to.  Once this state is terminal, nothing that follows changes the states of the record
or its completion.  Opening appends an open attempt; closing changes the last attempt, if there is
one, and an attempt that another one follows is never changed again.  The run that the record is of
and the time of its beginning stay as they are. -/
theorem sound_under_all_operations (executionId : String) (started : Timestamp) :
    let audit := (Audit.begin executionId started).performAll steps
    audit.Sound ∧
    audit.state = (steps.filterMap (·.2.event?)).foldl RunState.next .init ∧
    (audit.state.isTerminal = true → ∀ later, SameCourse audit (audit.performAll later)) ∧
    (∀ number workflowName now,
      audit.beginAttempt number workflowName now =
        { audit with
          attempts := audit.attempts ++
            [{ attempt := number, workflowName, startedAt := now, finishedAt := none, error := none,
               retryRequestedBy := [] }] }) ∧
    (∀ error requested now,
      (audit.attempts = [] → audit.finishAttempt error requested now = audit) ∧
      ∀ earlier last, audit.attempts = earlier ++ [last] →
        audit.finishAttempt error requested now =
          { audit with
            attempts := earlier ++
              [{ last with finishedAt := some now, error, retryRequestedBy := requested }] }) ∧
    (∀ later, audit.attempts.dropLast <+: (audit.performAll later).attempts) ∧
    audit.executionId = executionId ∧ audit.startedAt = started := by
  intro audit
  obtain ⟨hid, hstarted⟩ : audit.executionId = executionId ∧ audit.startedAt = started :=
    origin_performAll steps
  refine ⟨(sound_begin executionId started).performAll steps, state_performAll steps, ?_, ?_, ?_,
    dropLast_attempts_performAll, hid, hstarted⟩
  · intro hended later
    exact .performAll later hended
  · intro number workflowName now
    rfl
  · intro error requested now
    constructor
    · intro hnone
      rw [finishAttempt, hnone, changeLast, ← hnone]
    · intro earlier last hlast
      rw [finishAttempt, hlast, changeLast_append_singleton]

end Audit

end ImageFlow
