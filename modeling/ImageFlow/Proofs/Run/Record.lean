import ImageFlow.Proofs.Run.Audit
import ImageFlow.Proofs.Run.Fallback

/-!
# The record mirrors the run

The record is written from many places while a run goes on, and read only afterwards.  Here the
record that a run leaves is computed from its history: the states it went through and the entries of
its attempts.  The main statement says what can be read off it about the run.
-/

namespace ImageFlow

variable {η ω : Type}

/-! ## What a history puts on record -/

/-- What is on record of the judgement of an attempt. -/
structure AttemptEntry where
  error : Option String
  requested : List String
  deriving DecidableEq

def AttemptRecord.entry (attempt : AttemptRecord) : AttemptEntry :=
  ⟨attempt.error, attempt.retryRequestedBy⟩

/-- The entry of an attempt that reached the engine: the message of the error that left the last
judgement, and the hooks that asked. -/
def Trial.entry (kind : HookKind η) (trial : Trial η) : AttemptEntry :=
  ⟨(trial.error kind).map WorkflowError.message, trial.requested kind⟩

namespace LastAttempt

/-- The entries of the attempt. -/
@[simp]
def entries (kind : HookKind η) : LastAttempt η → List AttemptEntry
  | cancelled | unloaded _ => []
  | unprepared _ _ _ failure => [⟨some failure.message, []⟩]
  | settled trial | limited trial => [trial.entry kind]

@[simp]
def states : LastAttempt η → List RunState
  | cancelled => []
  | _ => [.running]

end LastAttempt

namespace History

/-- The entries of all attempts. -/
def entries (kind : HookKind η) (history : History η) : List AttemptEntry :=
  history.repeated.map (·.entry kind) ++ history.last.entries kind

def states (history : History η) : List RunState :=
  history.repeated.flatMap (fun _ => [.running, .retrying]) ++ history.last.states

end History

/-- An attempt on record is closed, and has this number and this entry. -/
structure AttemptRecord.Closes (attempt : AttemptRecord) (number : Nat) (entry : AttemptEntry) :
    Prop where
  number_eq : attempt.attempt = number
  entry_eq : attempt.entry = entry
  finished : attempt.finishedAt.isSome = true

theorem Audit.exists_attempt_of_closed
    (audit : Audit) (number : Nat) (workflowName : String) (error : Option String)
    (requested : List String) (begun finished : Timestamp) :
    ∃ attempt : AttemptRecord,
      ((audit.beginAttempt number workflowName begun).finishAttempt error requested
          finished).attempts = audit.attempts ++ [attempt] ∧
        attempt.Closes number ⟨error, requested⟩ :=
  ⟨_, audit.attempts_finishAttempt_beginAttempt number workflowName error requested begun finished,
    rfl, rfl, rfl⟩

/-- These attempts are on record with these entries, closed, and numbered from `number` on. -/
structure Recorded (number : Nat) (entries : List AttemptEntry) (attempts : List AttemptRecord) :
    Prop where
  entries_eq : attempts.map AttemptRecord.entry = entries
  numbers_eq : attempts.map AttemptRecord.attempt = List.range' number attempts.length
  finished : ∀ attempt ∈ attempts, attempt.finishedAt.isSome = true

theorem Recorded.nil (number : Nat) : Recorded number [] [] := by
  constructor <;> simp

theorem Recorded.cons
    {number : Nat} {entry : AttemptEntry} {entries : List AttemptEntry} {attempt : AttemptRecord}
    {attempts : List AttemptRecord}
    (hattempt : attempt.Closes number entry) (h : Recorded (number + 1) entries attempts) :
    Recorded number (entry :: entries) (attempt :: attempts) := by
  constructor
  · rw [List.map_cons, h.entries_eq, hattempt.entry_eq]
  · rw [List.map_cons, h.numbers_eq, hattempt.number_eq]
    rfl
  · intro other hother
    rcases List.mem_cons.mp hother with rfl | hother
    · exact hattempt.finished
    · exact h.finished other hother

/-! ## One attempt -/

namespace Progress

variable (site : Site ω) (kind : HookKind η) (vars : Variables) (number : Nat)

section States

variable {p : Progress η ω}

theorem passes_opened (hready : p.audit.state.Ready) (world : ω) :
    Audit.Passes [.running] p.audit (p.opened site world).audit :=
  .record _ hready.next_start hready.ne_running.symm

theorem passes_afterFailure
    (hready : p.audit.state.Ready) (template : Workflow) (failure : HookError) (world : ω) :
    Audit.Passes [.running] p.audit
      (p.afterFailure site kind number template failure world).audit := by
  have hopened := passes_opened site hready world
  exact ⟨hopened.stateTransitions_eq, hopened.state_eq⟩

theorem passes_afterTrial (hready : p.audit.state.Ready) (trial : Trial η) :
    Audit.Passes [.running] p.audit (p.afterTrial site kind vars number trial).audit := by
  have hopened := passes_opened site hready p.world
  exact ⟨hopened.stateTransitions_eq, hopened.state_eq⟩

end States

variable (p : Progress η ω)

theorem exists_attempt_afterFailure (template : Workflow) (failure : HookError) (world : ω) :
    ∃ attempt : AttemptRecord,
      (p.afterFailure site kind number template failure world).audit.attempts =
        p.audit.attempts ++ [attempt] ∧
      attempt.Closes number ⟨some failure.message, []⟩ := by
  have hclosed := (p.audit.record .start (site.now p.world)).exists_attempt_of_closed number
    template.name (some failure.message) [] (site.now world) (site.now world)
  rwa [Audit.attempts_record] at hclosed

theorem exists_attempt_afterTrial (trial : Trial η) :
    ∃ attempt : AttemptRecord,
      (p.afterTrial site kind vars number trial).audit.attempts =
        p.audit.attempts ++ [attempt] ∧
      attempt.Closes number (trial.entry kind) := by
  have hclosed := (p.audit.record .start (site.now p.world)).exists_attempt_of_closed number
    trial.template.name (errorText (trial.error kind)) (trial.requested kind)
    (site.now (site.load p.world).2) (site.now (trial.worldAfter site kind vars p.world))
  rwa [Audit.attempts_record] at hclosed

end Progress

/-! ## All attempts -/

namespace Unfolds

variable {site : Site ω} {kind : HookKind η} {vars : Variables} {names : List String}
  {left number : Nat} {p : Progress η ω} {history : History η}
  {ending : Except RunError (OrderedMap String) × Progress η ω}

/-- The attempts put the states of the history on record. -/
theorem passes
    (h : Unfolds site kind vars names left number p history ending)
    (hready : p.audit.state.Ready) :
    Audit.Passes history.states p.audit ending.2.audit := by
  induction h with
  | cancelled => exact .refl _
  | @unloaded left number p failure world => exact Progress.passes_opened site hready world
  | unprepared => exact Progress.passes_afterFailure site kind _ hready _ _ _
  | settled => exact Progress.passes_afterTrial site kind vars _ hready _
  | limited => exact Progress.passes_afterTrial site kind vars _ hready _
  | @repeated left number p trial history ending events _ _ _ _ ih =>
      have htrial := Progress.passes_afterTrial site kind vars number hready trial
      have hrunning : (p.afterTrial site kind vars number trial).audit.state = .running :=
        htrial.state_eq
      have hretry := Audit.Passes.record (site.now (trial.worldAfter site kind vars p.world))
        (congrArg (RunState.next · .retry) hrunning) (by rw [hrunning]; decide)
      have hnext := ih (.inr hretry.state_eq)
      exact (htrial.trans hretry).trans hnext

/-- The attempts put their entries on record after those that are there. -/
theorem recorded
    (h : Unfolds site kind vars names left number p history ending) :
    ∃ attempts, ending.2.audit.attempts = p.audit.attempts ++ attempts ∧
      Recorded number (history.entries kind) attempts := by
  induction h with
  | cancelled => exact ⟨[], by simp, .nil _⟩
  | unloaded => exact ⟨[], by simp [Progress.opened], .nil _⟩
  | @unprepared left number p template world hook failure =>
      obtain ⟨attempt, hattempts, hattempt⟩ :=
        p.exists_attempt_afterFailure site kind number template failure world
      exact ⟨[attempt], hattempts, .cons hattempt (.nil _)⟩
  | @settled left number p trial =>
      obtain ⟨attempt, hattempts, hattempt⟩ :=
        p.exists_attempt_afterTrial site kind vars number trial
      exact ⟨[attempt], hattempts, .cons hattempt (.nil _)⟩
  | @limited number p trial =>
      obtain ⟨attempt, hattempts, hattempt⟩ :=
        p.exists_attempt_afterTrial site kind vars number trial
      exact ⟨[attempt], hattempts, .cons hattempt (.nil _)⟩
  | @repeated left number p trial history ending events _ _ _ _ ih =>
      obtain ⟨attempt, hattempts, hattempt⟩ :=
        p.exists_attempt_afterTrial site kind vars number trial
      obtain ⟨attempts, hlater, hrecorded⟩ := ih
      refine ⟨attempt :: attempts, ?_, .cons hattempt hrecorded⟩
      rw [hlater]
      simp [Progress.record, hattempts]

end Unfolds

/-! ## Reading the record -/

/-- The error of a run that failed. -/
def failure? {α : Type} : Except RunError α → Option RunError
  | .ok _ => none
  | .error error => some error

@[simp]
theorem failure?_error {α : Type} (error : RunError) :
    failure? (.error error : Except RunError α) = some error := rfl

theorem failure?_map {α β : Type} (f : α → β) (result : Except RunError α) :
    failure? (result.map f) = failure? result := by
  cases result <;> rfl

/-- A run that an executed attempt settles fails with the failure of that attempt, or not at all. -/
theorem Trial.failure?_outcome (kind : HookKind η) (names : List String) (trial : Trial η) :
    failure? (trial.outcome kind names) = (trial.error kind).map .workflow := by
  rw [Trial.outcome_eq]
  cases trial.error kind <;> rfl

/-- The states between the last attempt of a run with this failure and its end: a run that was
cancelled before it could repeat an attempt is still retrying. -/
def pendingStates : Option RunError → List RunState
  | some (.cancelled number) => if 2 ≤ number then [.retrying] else []
  | _ => []

/-- How many of the attempts of a run with this failure could not load a template. -/
def failedLoads : Option RunError → Nat
  | some (.template _) => 1
  | _ => 0

/-- The entry of the attempt that no engine was handed, if a run with this failure ended in one. -/
def setupEntries : Option RunError → List AttemptEntry
  | some (.setup _ failure) => [⟨some failure.message, []⟩]
  | _ => []

/-- A run with this failure, which began so many attempts, ended although the last attempt on record
was to be repeated. -/
def RepeatDue (started : Nat) : Option RunError → Prop
  | some (.attemptLimit ..) => True
  | some (.cancelled number) => 2 ≤ number
  | some (.template _) => 2 ≤ started
  | _ => False

theorem flatMap_pair_append {α β : Type} (a b : α) (items : List β) :
    items.flatMap (fun _ => [a, b]) ++ [a] =
      (List.replicate (items.length + 1) a).intersperse b := by
  induction items with
  | nil => rfl
  | cons item rest ih =>
      rw [List.flatMap_cons, List.append_assoc, ih, List.length_cons]
      simp [List.replicate_succ]

theorem flatMap_pair_cons {α β : Type} (a b : α) (item : β) (rest : List β) :
    (item :: rest).flatMap (fun _ => [a, b]) =
      (List.replicate (rest.length + 1) a).intersperse b ++ [b] := by
  rw [← flatMap_pair_append]
  induction rest with
  | nil => rfl
  | cons next rest ih => simpa [List.flatMap_cons] using ih

namespace History

variable (kind : HookKind η) (names : List String) (history : History η)

/-- One running state for each attempt that was begun, with one retrying state between any two. -/
theorem states_eq :
    history.states =
      (List.replicate history.started .running).intersperse .retrying
        ++ pendingStates (failure? (history.result kind names 1)) := by
  obtain ⟨repeated, last⟩ := history
  cases last with
  | cancelled =>
      cases repeated with
      | nil => rfl
      | cons trial rest =>
          have hlater : 2 ≤ 1 + (rest.length + 1) := by omega
          rw [states, flatMap_pair_cons]
          simp [started, result, pendingStates, hlater]
  | settled trial =>
      have hnone : pendingStates (failure? (trial.outcome kind names)) = [] := by
        rw [trial.failure?_outcome]
        cases trial.error kind <;> rfl
      simp [states, started, result, hnone, flatMap_pair_append]
  | _ => simp [states, started, result, pendingStates, flatMap_pair_append]

/-- Every attempt that was begun is on record, unless it failed to load its template. -/
theorem started_eq :
    history.started =
      (history.entries kind).length + failedLoads (failure? (history.result kind names 1)) := by
  obtain ⟨repeated, last⟩ := history
  cases last with
  | settled trial =>
      have hnone : failedLoads (failure? (trial.outcome kind names)) = 0 := by
        rw [trial.failure?_outcome]
        cases trial.error kind <;> rfl
      simp [started, entries, result, hnone]
  | _ => simp [started, entries, result, failedLoads]

/-- The attempts on record are those that reached the engine and one whose preparation failed. -/
theorem entries_eq :
    history.entries kind =
      history.trials.map (·.entry kind)
        ++ setupEntries (failure? (history.result kind names 1)) := by
  obtain ⟨repeated, last⟩ := history
  cases last with
  | settled trial =>
      have hnone : setupEntries (failure? (trial.outcome kind names)) = [] := by
        rw [trial.failure?_outcome]
        cases trial.error kind <;> rfl
      simp [entries, trials, result, hnone]
  | _ => simp [entries, trials, result, setupEntries]

/-- The state in which the attempts leave the record. -/
def finalState : RunState :=
  history.states.getLast?.getD .init

theorem finalState_cases : history.finalState = .running ∨ history.finalState.Ready := by
  obtain ⟨repeated, last⟩ := history
  cases last with
  | cancelled =>
      right
      rcases List.eq_nil_or_concat repeated with rfl | ⟨earlier, trial, rfl⟩
      · exact .inl rfl
      · right
        simp [finalState, states]
  | _ => exact .inl (by simp [finalState, states])

theorem finalState_of_isOk (hok : (history.result kind names 1).isOk = true) :
    history.finalState = .running := by
  obtain ⟨repeated, last⟩ := history
  cases last with
  | settled trial => simp [finalState, states]
  | _ => cases hok

/-- The last event moves the record to the terminal state that tells how the run ended. -/
theorem next_finalState :
    history.finalState.next
        (if (history.result kind names 1).isOk then .succeed else .fail) =
      if (history.result kind names 1).isOk then .succeeded else .failed := by
  cases hok : (history.result kind names 1).isOk with
  | true =>
      rw [history.finalState_of_isOk kind names hok]
      rfl
  | false =>
      rcases history.finalState_cases with hrunning | hready
      · rw [hrunning]
        rfl
      · exact hready.next_fail

theorem finalState_ne_of_isTerminal {state : RunState} (hterminal : state.isTerminal = true) :
    state ≠ history.finalState := by
  rintro rfl
  rcases history.finalState_cases with hrunning | hready | hready
  · rw [hrunning] at hterminal
    cases hterminal
  · rw [hready] at hterminal
    cases hterminal
  · rw [hready] at hterminal
    cases hterminal

variable {kind history} in
/-- Every attempt on record but the last one was to be repeated. -/
theorem Sound.requested_of_mem_dropLast
    {left : Nat} (h : history.Sound kind left) {entry : AttemptEntry}
    (hentry : entry ∈ (history.entries kind).dropLast) : entry.requested ≠ [] := by
  have hearlier : entry ∈ history.repeated.map (·.entry kind) := by
    rw [entries] at hentry
    cases hlast : history.last with
    | cancelled =>
        rw [hlast, LastAttempt.entries, List.append_nil] at hentry
        exact List.dropLast_subset _ hentry
    | unloaded failure =>
        rw [hlast, LastAttempt.entries, List.append_nil] at hentry
        exact List.dropLast_subset _ hentry
    | _ => simpa [hlast] using hentry
  obtain ⟨trial, htrial, rfl⟩ := List.mem_map.mp hearlier
  exact h.repeated_asked trial htrial

variable {kind history} in
/-- The last attempt on record was to be repeated exactly when the result says so. -/
theorem Sound.requested_getLast_iff
    {left : Nat} (h : history.Sound kind left) {entry : AttemptEntry}
    (hentry : (history.entries kind).getLast? = some entry) :
    entry.requested ≠ [] ↔ RepeatDue history.started (failure? (history.result kind names 1)) := by
  obtain ⟨repeated, last⟩ := history
  have hearlier (hrepeated : (repeated.map (·.entry kind)).getLast? = some entry) :
      entry.requested ≠ [] ∧ 1 ≤ repeated.length := by
    obtain ⟨trial, htrial, rfl⟩ := List.mem_map.mp (List.mem_of_getLast? hrepeated)
    exact ⟨h.repeated_asked trial htrial, List.length_pos_of_mem htrial⟩
  cases last with
  | cancelled =>
      obtain ⟨hasked, hlength⟩ := hearlier (by simpa [entries] using hentry)
      simp only [result, LastAttempt.result, failure?_error, RepeatDue]
      exact iff_of_true hasked (by omega)
  | unloaded failure =>
      obtain ⟨hasked, hlength⟩ := hearlier (by simpa [entries] using hentry)
      simp only [result, LastAttempt.result, failure?_error, RepeatDue, started,
        LastAttempt.started]
      exact iff_of_true hasked (by omega)
  | unprepared hooks template hook failure =>
      obtain rfl : _ = entry := by
        simpa [entries] using hentry
      simp [result, RepeatDue]
  | settled trial =>
      obtain rfl : trial.entry kind = entry := by
        simpa [entries] using hentry
      have hdue (started : Nat) : ¬ RepeatDue started (failure? (trial.outcome kind names)) := by
        rw [trial.failure?_outcome]
        cases trial.error kind <;> exact id
      exact iff_of_false (not_not_intro (h.settled_unasked trial rfl)) (hdue _)
  | limited trial =>
      obtain rfl : trial.entry kind = entry := by
        simpa [entries] using hentry
      exact iff_of_true (h.limited_asked trial rfl) trivial

end History

/-! ## Runs -/

/-- What the attempts and the last event put on record of a run. -/
theorem Unfolds.passes_closed
    {site : Site ω} {kind : HookKind η} {vars : Variables} {names : List String} {left : Nat}
    {p q : Progress η ω} {history : History η} {result : Except RunError (OrderedMap String)}
    (h : Unfolds site kind vars names left 1 p history (result, q))
    (hinit : p.audit.state = .init) :
    Audit.Passes (history.states ++ [if result.isOk then .succeeded else .failed]) p.audit
      (q.record site (if result.isOk then .succeed else .fail)).audit := by
  have hattempts := h.passes (.inl hinit)
  obtain rfl : result = history.result kind names 1 := h.result_eq
  have hfinal : q.audit.state = history.finalState := by
    rw [hattempts.state_eq, hinit]
    rfl
  have hnext := history.next_finalState kind names
  rw [← hfinal] at hnext
  have hmoved : (if (history.result kind names 1).isOk then RunState.succeeded else .failed) ≠
      q.audit.state := by
    rw [hfinal]
    apply history.finalState_ne_of_isTerminal
    split <;> rfl
  exact hattempts.trans (.record _ hnext hmoved)

namespace Runner

variable (site : Site ω) (kind : HookKind η) (runner : Runner η) (vars : Variables)
  (names : List String) (world : ω)

theorem isOk_conclude (result : Except RunError (OrderedMap String)) (p : Progress η ω) :
    (runner.conclude site result p).result.isOk = result.isOk := by
  cases result <;> rfl

theorem audit_of_conclude
    {result : Except RunError (OrderedMap String)} {p : Progress η ω} {report : RunReport}
    (hreport : (runner.conclude site result p).result = .ok report) :
    report.audit = (p.record site (if result.isOk then .succeed else .fail)).audit := by
  cases result with
  | error error => cases hreport
  | ok outputs =>
      cases hreport
      rfl

/-- The record that a run leaves: the states of its attempts and the last event, and the entries of
its attempts. -/
theorem exists_lastAudit :
    ∃ audit, (runner.run site kind vars names world).runner.lastAudit = some audit ∧
      audit.stateTransitions =
        .init :: (runner.history site kind vars world).states
          ++ [if (runner.run site kind vars names world).result.isOk then .succeeded
            else .failed] ∧
      Recorded 1 ((runner.history site kind vars world).entries kind) audit.attempts ∧
      ∀ report, (runner.run site kind vars names world).result = .ok report →
        report.audit = audit := by
  have hunfolds := runner.unfolds site kind vars names world
  cases hend : attemptsFrom site kind vars names (runner.maxAttempts - 1) 1
      (runner.start site world) with
  | mk result p =>
      rw [hend] at hunfolds
      have hpasses := hunfolds.passes_closed rfl
      obtain ⟨attempts, hattempts, hrecorded⟩ := hunfolds.recorded
      have hrun : runner.run site kind vars names world = runner.conclude site result p := by
        rw [run, hend]
      refine ⟨(p.record site (if result.isOk then .succeed else .fail)).audit, ?_, ?_, ?_, ?_⟩
      · rw [hrun]
        rfl
      · rw [hrun, isOk_conclude, hpasses.stateTransitions_eq]
        rfl
      · rw [Progress.record, Audit.attempts_record, hattempts]
        exact hrecorded
      · intro report hreport
        rw [hrun] at hreport
        exact runner.audit_of_conclude site hreport

/-- The record mirrors the run.  It went through one running state for each attempt that was begun,
with one retrying state between any two, one more if the run was cancelled before it could repeat
an attempt, and one terminal state.  Its attempts are those that loaded a template, numbered from
one, all closed: the consecutive attempts that reached the engine, with the error and the requests
of their judgements, and one whose preparation failed.  Each but the last was to be repeated, and
the last one was exactly when the result says so.  A report holds this record. -/
theorem lastAudit_mirrors_run :
    let outcome := runner.run site kind vars names world
    let trials := (runner.history site kind vars world).trials
    let started := outcome.calls.countP RunCall.isLoad
    ∃ audit, outcome.runner.lastAudit = some audit ∧
      audit.stateTransitions =
        .init :: (List.replicate started .running).intersperse .retrying
          ++ pendingStates (failure? outcome.result)
          ++ [if outcome.result.isOk then .succeeded else .failed] ∧
      started = audit.attempts.length + failedLoads (failure? outcome.result) ∧
      audit.attempts.map (·.attempt) = List.range' 1 audit.attempts.length ∧
      (∀ attempt ∈ audit.attempts, attempt.finishedAt.isSome = true) ∧
      Trial.Consecutive site kind vars runner.hooks world trials ∧
      outcome.calls.filterMap RunCall.job? = trials.map (·.job kind) ∧
      audit.attempts.map (·.entry) =
        trials.map (·.entry kind) ++ setupEntries (failure? outcome.result) ∧
      (∀ attempt ∈ audit.attempts.dropLast, attempt.retryRequestedBy ≠ []) ∧
      (∀ attempt, audit.attempts.getLast? = some attempt →
        (attempt.retryRequestedBy ≠ [] ↔ RepeatDue started (failure? outcome.result))) ∧
      ∀ report, outcome.result = .ok report → report.audit = audit := by
  intro outcome trials started
  let history := runner.history site kind vars world
  have hsound : history.Sound kind (runner.maxAttempts - 1) :=
    runner.history_sound site kind vars world
  have hresult : outcome.result.map RunReport.outputs = history.result kind names 1 :=
    runner.run_result site kind vars names world
  have hstarted : started = history.started := by
    rw [← History.countP_isLoad_calls kind, ← runner.run_calls site kind vars names world]
  obtain ⟨audit, hlast, hstates, hrecorded, hreport⟩ :=
    runner.exists_lastAudit site kind vars names world
  have hlength : audit.attempts.length = (history.entries kind).length := by
    rw [← hrecorded.entries_eq, List.length_map]
  refine ⟨audit, hlast, ?_, ?_, hrecorded.numbers_eq, hrecorded.finished,
    runner.consecutive_trials site kind vars world, ?_, ?_, ?_, ?_, hreport⟩
  · rw [hstates, hstarted, ← failure?_map RunReport.outputs, hresult,
      history.states_eq kind names]
    rfl
  · rw [hstarted, hlength, ← failure?_map RunReport.outputs, hresult]
    exact history.started_eq kind names
  · rw [← History.filterMap_job?_calls kind, ← runner.run_calls site kind vars names world]
  · rw [hrecorded.entries_eq, ← failure?_map RunReport.outputs, hresult]
    exact history.entries_eq kind names
  · intro attempt hattempt
    have hentry : attempt.entry ∈ (history.entries kind).dropLast := by
      rw [← hrecorded.entries_eq, ← List.map_dropLast]
      exact List.mem_map_of_mem hattempt
    exact hsound.requested_of_mem_dropLast hentry
  · intro attempt hattempt
    have hentry : (history.entries kind).getLast? = some attempt.entry := by
      rw [← hrecorded.entries_eq, List.getLast?_map, hattempt]
      rfl
    rw [hstarted, ← failure?_map RunReport.outputs, hresult]
    exact hsound.requested_getLast_iff names hentry

/-- A run that falls back and then fails again leaves two attempts on record, each with its own
error: the first asked to be repeated, the last did not. -/
theorem lastAudit_mirrors_failing_run :
    let runner := withDefaults { workerMachineSeries := ["n2", "n1"] } 0 id "" 3 []
    let outcome := runner.run (.scripted oneWorker) (Builtin.kind default) ∅ []
      [(some n2QuotaError, false), (some n2dQuotaError, false)]
    ∃ audit, outcome.runner.lastAudit = some audit ∧
      audit.stateTransitions = [.init, .running, .retrying, .running, .failed] ∧
      audit.attempts.map (·.attempt) = [1, 2] ∧
      audit.attempts.map (·.entry) =
        [⟨some "Quota 'N2_CPUS' exceeded", ["update-machine-types"]⟩,
          ⟨some "Quota 'N2D_CPUS' exceeded", []⟩] := by
  intro runner outcome
  obtain ⟨audit, hlast, hstates, -, hnumbers, -, -, -, hentries, -⟩ :=
    lastAudit_mirrors_run (.scripted oneWorker) (Builtin.kind default) runner ∅ []
      [(some n2QuotaError, false), (some n2dQuotaError, false)]
  have hrecorded : audit.attempts.map (·.entry) =
      [⟨some "Quota 'N2_CPUS' exceeded", ["update-machine-types"]⟩,
        ⟨some "Quota 'N2D_CPUS' exceeded", []⟩] := by
    rw [hentries]
    decide +kernel
  have hlength : audit.attempts.length = 2 := by
    simpa using congrArg List.length hrecorded
  rw [hlength] at hnumbers
  exact ⟨audit, hlast, hstates, hnumbers, hrecorded⟩

end Runner

end ImageFlow
