import ImageFlow.Hook.Builtin
import ImageFlow.Proofs.Run.Calls
import ImageFlow.Proofs.Run.Limit
import Mathlib.Algebra.Order.Ring.Nat
import Mathlib.Data.List.Forall2

/-!
# One request for each selection of a series

Only a selection of a machine series asks for another attempt, and only once: asking uses up its
second series.  The requests of a run are therefore paid for by the selections that can still ask
when the run begins, whatever chain they stand in and whatever the hooks between them make of an
error.  The argument is a budget: what an attempt costs is taken from what the hooks hold, and the
rest is what they hold afterwards.
-/

namespace ImageFlow

variable {η ω : Type}

/-! ## Budgets -/

/-- What the hooks made of the outcome of an attempt, in order. -/
def Trial.verdicts (kind : HookKind η) (trial : Trial η) : List (Verdict η) :=
  ImageFlow.verdicts kind trial.hooks trial.execution.error

/-- The hook with this number asked for another attempt after this one. -/
def Trial.asksAt (kind : HookKind η) (index : Nat) (trial : Trial η) : Bool :=
  (trial.verdicts kind)[index]?.any (·.retry)

theorem sum_map_ite_eq_countP {α : Type} (p : α → Bool) (items : List α) :
    (items.map fun item => if p item then 1 else 0).sum = items.countP p := by
  induction items with
  | nil => rfl
  | cons item rest ih => rw [List.map_cons, List.sum_cons, ih, List.countP_cons, Nat.add_comm]

/-- A judgement takes its cost from what the hooks hold, and leaves the rest. -/
def Budgeted (kind : HookKind η) (cost : List (Verdict η) → Nat) (held : List η → Nat) : Prop :=
  ∀ hooks error,
    cost (verdicts kind hooks error) + held (judged kind hooks error) = held hooks

/-- Consecutive attempts take what they cost together, and leave the rest. -/
theorem Budgeted.sum_add_hooksLeft
    {kind : HookKind η} {cost : List (Verdict η) → Nat} {held : List η → Nat}
    (h : Budgeted kind cost held) {site : Site ω} {vars : Variables} {hooks : List η} {world : ω}
    {trials : List (Trial η)} (hconsecutive : Trial.Consecutive site kind vars hooks world trials) :
    (trials.map fun trial => cost (trial.verdicts kind)).sum
        + held (Trial.hooksLeft kind hooks trials) = held hooks := by
  induction trials generalizing hooks world with
  | nil => exact Nat.zero_add _
  | cons trial rest ih =>
      obtain ⟨harises, hrest⟩ := hconsecutive
      have hstep : cost (trial.verdicts kind) + held (trial.hooksAfter kind) = held hooks := by
        rw [← harises.hooks_eq]
        exact h trial.hooks trial.execution.error
      have hlater := ih hrest
      rw [List.map_cons, List.sum_cons, Nat.add_assoc, ← hstep, ← hlater]
      rfl

/-! ## Selections that can ask -/

/-- The selection can ask for another attempt: it has a second series, which is not yet in use. -/
def SeriesFallback.armed (s : SeriesFallback) : Bool :=
  s.state = .primary && s.secondary.isSome

namespace Builtin

/-- The hook is a selection of a series that can ask for another attempt. -/
def armed : Builtin → Bool
  | machineSeries s => s.armed
  | _ => false

/-- A selection that was made for these series can ask exactly when it is at the first one and the
second one is not empty. -/
theorem armed_ofSeries
    (primary : String) (secondary : Option String) (state : FallbackState)
    (troubleshootingUrl : String) :
    (machineSeries { SeriesFallback.ofSeries primary secondary with
      state, troubleshootingUrl }).armed = true ↔
      state = .primary ∧ ∃ series, secondary = some series ∧ series ≠ "" := by
  cases secondary with
  | none => simp [armed, SeriesFallback.armed, SeriesFallback.ofSeries]
  | some series =>
      by_cases hempty : series = ""
      · simp [armed, SeriesFallback.armed, SeriesFallback.ofSeries, Option.filter, hempty]
      · simp [armed, SeriesFallback.armed, SeriesFallback.ofSeries, Option.filter, hempty]

/-- What a hook may make of an outcome: a selection at its first series that has a second one asks
and falls back to it, or the hook asks for nothing and stays as it is. -/
structure FallsOrStays (hook : Builtin) (verdict : Verdict Builtin) : Prop where
  falls : verdict.retry = true → ∃ s secondary,
    hook = machineSeries s ∧ s.state = .primary ∧ s.secondary = some secondary ∧
      verdict.hook = machineSeries { s with state := .fallenBack }
  stays : verdict.retry = false → verdict.hook = hook

theorem fallsOrStays_pass (hook : Builtin) (error : Option WorkflowError) :
    FallsOrStays hook (.pass hook error) where
  falls := by
    intro hretry
    cases hretry
  stays := fun _ => rfl

theorem fallsOrStays_judge (hook : Builtin) (error : Option WorkflowError) :
    FallsOrStays hook (hook.judge error).value := by
  cases hook with
  | machineSeries s =>
      obtain ⟨primary, secondary, state, troubleshootingUrl⟩ := s
      cases state with
      | fallenBack => exact fallsOrStays_pass _ error
      | primary =>
          cases secondary with
          | none => exact fallsOrStays_pass _ error
          | some secondary =>
              simp only [judge, SeriesFallback.judge]
              split
              · exact ⟨fun _ => ⟨_, secondary, rfl, rfl, rfl, rfl⟩, fun hretry => by cases hretry⟩
              · exact fallsOrStays_pass _ error
  | releaseCheck specified detected => exact fallsOrStays_pass _ _
  | _ => exact fallsOrStays_pass _ error

/-- Asking disarms a hook, and nothing else does. -/
theorem FallsOrStays.retry_add_armed
    {hook : Builtin} {verdict : Verdict Builtin} (h : FallsOrStays hook verdict) :
    (if verdict.retry then 1 else 0) + (if verdict.hook.armed then 1 else 0) =
      if hook.armed then 1 else 0 := by
  cases hretry : verdict.retry with
  | false => rw [h.stays hretry, if_neg Bool.false_ne_true, Nat.zero_add]
  | true =>
      obtain ⟨s, secondary, rfl, hprimary, hsecondary, hfallen⟩ := h.falls hretry
      rw [hfallen]
      simp [armed, SeriesFallback.armed, hprimary, hsecondary]

variable (files : FileNode)

theorem forall₂_verdicts (hooks : List Builtin) (error : Option WorkflowError) :
    List.Forall₂ FallsOrStays hooks (verdicts (kind files) hooks error) := by
  induction hooks generalizing error with
  | nil => exact .nil
  | cons hook rest ih => exact .cons (fallsOrStays_judge hook error) (ih _)

/-- The requests of a judgement are paid for by the armed hooks. -/
theorem budgeted_countP :
    Budgeted (kind files) (·.countP (·.retry)) (·.countP armed) := by
  intro hooks error
  have hverdicts := forall₂_verdicts files hooks error
  rw [judged]
  generalize verdicts (kind files) hooks error = made at hverdicts
  induction hverdicts with
  | nil => rfl
  | cons hverdict _ ih =>
      have hstep := hverdict.retry_add_armed
      simp only [List.map_cons, List.countP_cons] at ih ⊢
      omega

/-- The request of one hook is paid for by that hook. -/
theorem budgeted_getElem (index : Nat) :
    Budgeted (kind files) (fun verdicts => if verdicts[index]?.any (·.retry) then 1 else 0)
      (fun hooks => if hooks[index]?.any armed then 1 else 0) := by
  intro hooks error
  have hverdicts := forall₂_verdicts files hooks error
  rw [judged]
  generalize verdicts (kind files) hooks error = made at hverdicts
  induction hverdicts generalizing index with
  | nil => rfl
  | cons hverdict _ ih =>
      cases index with
      | zero => simpa using hverdict.retry_add_armed
      | succ index => simpa using ih index

end Builtin

/-! ## Runs -/

/-- Attempts that are all to be repeated are no more than the requests made after them. -/
theorem Trial.length_le_countP
    (kind : HookKind η) {trials : List (Trial η)} (hasked : ∀ trial ∈ trials, trial.Asked kind) :
    trials.length ≤ (trials.flatMap (·.verdicts kind)).countP (·.retry) := by
  induction trials with
  | nil => exact Nat.zero_le _
  | cons trial rest ih =>
      obtain ⟨htrial, hrest⟩ := List.forall_mem_cons.mp hasked
      have hone : 0 < (trial.verdicts kind).countP (·.retry) := List.countP_pos_iff.mpr htrial
      have hlater := ih hrest
      rw [List.length_cons, List.flatMap_cons, List.countP_append]
      omega

/-- At most one attempt of a history was not repeated. -/
theorem History.Sound.length_trials_le_requests
    {kind : HookKind η} {left : Nat} {history : History η} (h : history.Sound kind left) :
    history.trials.length ≤ (history.trials.flatMap (·.verdicts kind)).countP (·.retry) + 1 := by
  have hrepeated : ∀ trial ∈ history.repeated, trial.Asked kind :=
    fun trial htrial => (trial.requested_ne_nil_iff kind).mp (h.repeated_asked trial htrial)
  have hasked := Trial.length_le_countP kind hrepeated
  have hlast := history.last.length_toList_trial?_le
  have hone := history.last.started_le_one
  rw [trials, List.length_append, List.flatMap_append, List.countP_append]
  omega

namespace Runner

/-- A run of built-in hooks asks for no more attempts than it has selections of a series that can
ask when it begins.  So it executes no more than that many attempts and one, and meets its limit
only if the limit is no larger.  Each hook stays as it is after every judgement in which it asks for
nothing; a selection that asks was at its first series, and is at the second one from then on.
Hence no hook asks twice, and one that cannot ask when the run begins does not ask at all. -/
theorem run_spends_each_fallback_once
    (site : Site ω) (files : FileNode) (runner : Runner Builtin) (vars : Variables)
    (names : List String) (world : ω) :
    let kind := Builtin.kind files
    let outcome := runner.run site kind vars names world
    let trials := (runner.history site kind vars world).trials
    let k := runner.hooks.countP Builtin.armed
    let M := max 1 runner.maxAttempts
    Trial.Consecutive site kind vars runner.hooks world trials ∧
    outcome.runner.hooks = Trial.hooksLeft kind runner.hooks trials ∧
    (trials.flatMap (·.verdicts kind)).countP (·.retry) ≤ k ∧
    (outcome.calls.filterMap RunCall.job?).length = trials.length ∧
    trials.length ≤ min M (1 + k) ∧
    (k < M → ∀ attempts lastError,
      outcome.result ≠ .error (.attemptLimit attempts lastError)) ∧
    (∀ trial ∈ trials, List.Forall₂ Builtin.FallsOrStays trial.hooks (trial.verdicts kind)) ∧
    (∀ index, trials.countP (·.asksAt kind index) ≤
      if runner.hooks[index]?.any Builtin.armed then 1 else 0) ∧
    (∀ primary secondary state troubleshootingUrl,
      (Builtin.machineSeries { SeriesFallback.ofSeries primary secondary with
        state, troubleshootingUrl }).armed = true ↔
        state = .primary ∧ ∃ series, secondary = some series ∧ series ≠ "") := by
  intro kind outcome trials k M
  have hsound := runner.history_sound site kind vars world
  have hconsecutive := runner.consecutive_trials site kind vars world
  have hrequests : (trials.flatMap (·.verdicts kind)).countP (·.retry) ≤ k := by
    have hsum := (Builtin.budgeted_countP files).sum_add_hooksLeft hconsecutive
    rw [List.countP_flatMap]
    exact Nat.le.intro hsum
  have hlength : trials.length ≤ runner.maxAttempts - 1 + 1 :=
    hsound.length_trials_le
  have hone : trials.length ≤ (trials.flatMap (·.verdicts kind)).countP (·.retry) + 1 :=
    hsound.length_trials_le_requests
  have hhooks : outcome.runner.hooks = Trial.hooksLeft kind runner.hooks trials := by
    rw [hconsecutive.hooksLeft_eq]
    exact runner.hooks_run site kind vars names world
  refine ⟨hconsecutive, hhooks, hrequests, ?_, by omega, ?_, ?_, ?_, Builtin.armed_ofSeries⟩
  · have hjobs : outcome.calls.filterMap RunCall.job? = trials.map (·.job kind) := by
      rw [← History.filterMap_job?_calls kind, ← runner.run_calls site kind vars names world]
    rw [hjobs, List.length_map]
  · intro hlimit attempts lastError hresult
    have hended := (runner.run_result_eq_error_iff site kind vars names world _).mp hresult
    obtain ⟨hall, hasked, -⟩ := (hsound.result_eq_attemptLimit_iff names _ _).mp hended
    have hpaid : trials.length ≤ (trials.flatMap (·.verdicts kind)).countP (·.retry) :=
      Trial.length_le_countP kind hasked
    have hfull : trials.length = runner.maxAttempts - 1 + 1 := hall
    omega
  · intro trial _
    exact Builtin.forall₂_verdicts files trial.hooks trial.execution.error
  · intro index
    have hsum := (Builtin.budgeted_getElem files index).sum_add_hooksLeft hconsecutive
    exact Nat.le.intro ((congrArg (· + _) (sum_map_ite_eq_countP _ trials)).symm.trans hsum)

end Runner

end ImageFlow
