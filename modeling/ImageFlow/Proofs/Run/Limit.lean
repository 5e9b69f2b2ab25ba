import ImageFlow.Proofs.Run.Course
import ImageFlow.Proofs.Run.SiteCalls
import ImageFlow.Run.Loop
import Mathlib.Logic.Function.Iterate

/-!
# The limit of attempts

Hooks are arbitrary and may ask for another attempt for ever, so the limit alone bounds a run.  The
loop that counts its attempts in a machine word ends after at most that many passes, in the result
of the run and without an overflow of the count (`LoopState.exists_pass_eq_ended`).  The limit is
reported exactly when all its attempts were executed and each of them, the last one included, is to
be repeated.
-/

namespace ImageFlow

variable {η ω : Type}

/-! ## The counted loop -/

theorem toNat_add_one {n : UInt32} (h : n.toNat + 1 < UInt32.size) :
    (n + 1).toNat = n.toNat + 1 := by
  rw [UInt32.toNat_add]
  exact Nat.mod_eq_of_lt h

namespace LoopState

variable (site : Site ω) (kind : HookKind η) (vars : Variables) (names : List String)

theorem pass_going
    (limit : UInt32) {begun : UInt32} (hfits : begun.toNat + 1 < UInt32.size)
    (p : Progress η ω) :
    pass site kind vars names limit (.going begun p) =
      ofEnd site names limit (begun + 1) (attempt site kind vars (begun.toNat + 1) p) := by
  rw [pass, if_pos hfits, toNat_add_one hfits]

/-- The counted loop ends in what the remaining attempts come to. -/
theorem exists_pass_eq_ended
    {limit begun : UInt32} {left : Nat} (hleft : begun.toNat + left + 1 = limit.toNat)
    (p : Progress η ω) :
    ∃ passes ≤ left + 1, ∃ result q,
      attemptsFrom site kind vars names left (begun.toNat + 1) p = (result, q) ∧
      (pass site kind vars names limit)^[passes] (.going begun p) = .ended result q := by
  induction left using Nat.strongRecOn generalizing begun p with
  | _ left ih =>
      have hfits : begun.toNat + 1 < UInt32.size := by
        have hlimit := limit.toNat_lt_size
        omega
      have hpass := pass_going site kind vars names limit hfits p
      have hnumber := toNat_add_one hfits
      rw [attemptsFrom]
      cases hattempt : attempt site kind vars (begun.toNat + 1) p with
      | mk ending q =>
          rw [hattempt] at hpass
          cases ending with
          | stopped error => exact ⟨1, by omega, _, _, rfl, hpass⟩
          | settled job error => exact ⟨1, by omega, _, _, rfl, hpass⟩
          | repeated requested error =>
              cases left with
              | zero =>
                  have hlast : limit ≤ begun + 1 := by
                    rw [UInt32.le_iff_toNat_le]
                    omega
                  rw [ofEnd, if_pos hlast, hnumber] at hpass
                  exact ⟨1, Nat.le_refl 1, _, _, rfl, hpass⟩
              | succ left =>
                  have hmore : ¬ limit ≤ begun + 1 := by
                    rw [UInt32.le_iff_toNat_le]
                    omega
                  rw [ofEnd, if_neg hmore, hnumber] at hpass
                  have hnext : (begun + 1).toNat + left + 1 = limit.toNat := by
                    omega
                  obtain ⟨passes, hpasses, result, r, hrest, hended⟩ :=
                    ih left (Nat.lt_succ_self left) hnext
                      (goOn site (begun.toNat + 1) requested q)
                  refine ⟨passes + 1, by omega, result, r, ?_, ?_⟩
                  · rw [← hrest, hnumber]
                  · rw [Function.iterate_succ_apply, hpass]
                    exact hended

end LoopState

/-! ## The limit as a result -/

namespace History.Sound

variable {kind : HookKind η} {left : Nat} {history : History η}

theorem started_le (h : history.Sound kind left) : history.started ≤ left + 1 := by
  have hrepeated := h.length_repeated_le
  have hlast := history.last.started_le_one
  simp only [History.started]
  omega

theorem length_trials_le (h : history.Sound kind left) : history.trials.length ≤ left + 1 :=
  Nat.le_trans history.length_trials_le_started h.started_le

/-- When every allowed attempt was executed and is to be repeated, the last one met the limit. -/
theorem exists_limited
    (h : history.Sound kind left) (hlength : history.trials.length = left + 1)
    (hasked : ∀ trial ∈ history.trials, trial.Asked kind) :
    ∃ trial, history.last = .limited trial := by
  have hrepeated := h.length_repeated_le
  obtain ⟨repeated, last⟩ := history
  cases last with
  | limited trial => exact ⟨trial, rfl⟩
  | settled trial =>
      have hunasked := h.settled_unasked trial rfl
      have htrial : trial.Asked kind := hasked trial (by simp [trials])
      exact absurd hunasked ((trial.requested_ne_nil_iff kind).mpr htrial)
  | cancelled =>
      simp [trials] at hlength hrepeated
      omega
  | unloaded failure =>
      simp [trials] at hlength hrepeated
      omega
  | unprepared hooks template hook failure =>
      simp [trials] at hlength hrepeated
      omega

/-- A history that met the limit has executed every allowed attempt, and each is to be repeated. -/
theorem of_limited
    (h : history.Sound kind left) {trial : Trial η} (hlast : history.last = .limited trial) :
    history.trials.length = left + 1 ∧ (∀ trial ∈ history.trials, trial.Asked kind) ∧
      history.trials.getLast? = some trial := by
  have hrepeated := h.length_of_limited trial hlast
  refine ⟨?_, ?_, ?_⟩
  · simp [trials, hlast, hrepeated]
  · intro other hother
    rw [← other.requested_ne_nil_iff kind]
    simp only [trials, hlast, LastAttempt.trial?, Option.toList_some, List.mem_append,
      List.mem_singleton] at hother
    rcases hother with hother | rfl
    · exact h.repeated_asked other hother
    · exact h.limited_asked other hlast
  · simp [trials, hlast]

theorem limited_of_result_eq
    {names : List String} {number attempts : Nat} {lastError : Option WorkflowError}
    (hresult : history.result kind names number = .error (.attemptLimit attempts lastError)) :
    ∃ trial, history.last = .limited trial ∧ attempts = number + history.repeated.length ∧
      lastError = trial.error kind := by
  obtain ⟨repeated, last⟩ := history
  cases last with
  | limited trial =>
      simp only [result, LastAttempt.result, Except.error.injEq, RunError.attemptLimit.injEq]
        at hresult
      exact ⟨trial, rfl, hresult.1.symm, hresult.2.symm⟩
  | settled trial =>
      simp only [result, LastAttempt.result, Trial.outcome_eq] at hresult
      split at hresult
      · cases hresult
      · cases hresult
  | cancelled => cases hresult
  | unloaded failure => cases hresult
  | unprepared hooks template hook failure => cases hresult

/-- The limit is the result exactly when every allowed attempt was executed and is to be
repeated. -/
theorem result_eq_attemptLimit_iff
    (h : history.Sound kind left) (names : List String) (attempts : Nat)
    (lastError : Option WorkflowError) :
    history.result kind names 1 = .error (.attemptLimit attempts lastError) ↔
      history.trials.length = left + 1 ∧
      (∀ trial ∈ history.trials, trial.Asked kind) ∧
      attempts = left + 1 ∧
      ∃ last, history.trials.getLast? = some last ∧ lastError = last.error kind := by
  constructor
  · intro hresult
    obtain ⟨trial, hlast, hattempts, herror⟩ := limited_of_result_eq hresult
    obtain ⟨hlength, hasked, hgetLast⟩ := h.of_limited hlast
    have hrepeated := h.length_of_limited trial hlast
    exact ⟨hlength, hasked, by omega, trial, hgetLast, herror⟩
  · rintro ⟨hlength, hasked, rfl, last, hgetLast, rfl⟩
    obtain ⟨trial, hlast⟩ := h.exists_limited hlength hasked
    obtain ⟨-, -, htrial⟩ := h.of_limited hlast
    have hrepeated := h.length_of_limited trial hlast
    obtain rfl : last = trial := by
      rw [htrial] at hgetLast
      exact (Option.some.inj hgetLast).symm
    rw [result, hlast, LastAttempt.result, hrepeated, Nat.add_comm 1 left]

/-- A last executed attempt that nobody wants repeated decides the result. -/
theorem result_of_not_asked
    (h : history.Sound kind left) (names : List String) (number : Nat) {last : Trial η}
    (hgetLast : history.trials.getLast? = some last) (hunasked : ¬ last.Asked kind) :
    history.result kind names number = last.outcome kind names := by
  have hunrequested : ¬ last.requested kind ≠ [] := by
    rwa [last.requested_ne_nil_iff kind]
  -- An attempt before the last one was repeated, so it cannot be the one that nobody asked about.
  have hexecuted : history.last.trial? ≠ none := by
    intro hnone
    have hmem : last ∈ history.repeated := by
      apply List.mem_of_getLast?
      rw [trials, hnone] at hgetLast
      simpa using hgetLast
    exact hunrequested (h.repeated_asked last hmem)
  cases hlast : history.last with
  | settled trial =>
      obtain rfl : trial = last := by
        simpa [trials, hlast] using hgetLast
      rw [result, hlast, LastAttempt.result]
  | limited trial =>
      obtain rfl : trial = last := by
        simpa [trials, hlast] using hgetLast
      exact absurd (h.limited_asked trial hlast) hunrequested
  | cancelled => simp [hlast] at hexecuted
  | unloaded failure => simp [hlast] at hexecuted
  | unprepared hooks template hook failure => simp [hlast] at hexecuted

end History.Sound

/-! ## Runs -/

namespace Runner

theorem toNat_max_one (setting : UInt32) : (max 1 setting).toNat = max 1 setting.toNat := by
  by_cases h : (1 : UInt32) ≤ setting
  · have hle : 1 ≤ setting.toNat := UInt32.le_iff_toNat_le.mp h
    rw [show max 1 setting = setting from if_pos h, Nat.max_eq_right hle]
  · have hlt : ¬ 1 ≤ setting.toNat := fun hle => h (UInt32.le_iff_toNat_le.mpr hle)
    rw [show max 1 setting = 1 from if_neg h, Nat.max_eq_left (by omega)]
    rfl

/-- The loop of a run, counted in a machine word, ends within the limit of passes, and the run is
concluded with its result. -/
theorem exists_pass_eq_run
    (site : Site ω) (kind : HookKind η) (runner : Runner η) {limit : UInt32}
    (hpos : 1 ≤ limit.toNat) (hlimit : runner.maxAttempts = limit.toNat)
    (vars : Variables) (names : List String) (world : ω) :
    ∃ passes ≤ limit.toNat, ∃ result p,
      (LoopState.pass site kind vars names limit)^[passes] (.going 0 (runner.start site world)) =
          .ended result p ∧
        runner.run site kind vars names world = runner.conclude site result p := by
  have hzero : (0 : UInt32).toNat = 0 := rfl
  have hleft : (0 : UInt32).toNat + (runner.maxAttempts - 1) + 1 = limit.toNat := by
    omega
  obtain ⟨passes, hpasses, result, p, hattempts, hended⟩ :=
    LoopState.exists_pass_eq_ended site kind vars names hleft (runner.start site world)
  refine ⟨passes, by omega, result, p, hended, ?_⟩
  rw [hzero, Nat.zero_add] at hattempts
  rw [run, hattempts]

/-- The bound on attempts.  Whatever the hooks, the site and the token do, a run with the limit
`setting` ends without an overflow of its count of attempts, loads at most `max 1 setting`
templates and executes at most as many jobs, those of its consecutive attempts.  It reports the
limit exactly when so many attempts were executed and some hook asked for another one after each of
them, the last one included; it then names that number and the error that left the last judgement.
When nobody asked after the last attempt that was executed, that attempt's own outcome is the
result.  A site that writes down what it is asked finds the calls that are counted here. -/
theorem run_within_limit
    (site : Site ω) (kind : HookKind η) (runner : Runner η) (setting : UInt32)
    (vars : Variables) (names : List String) (world : ω) :
    let M := max 1 setting.toNat
    let limited := runner.withMaxAttempts setting.toNat
    let outcome := limited.run site kind vars names world
    let trials := (limited.history site kind vars world).trials
    (∃ passes ≤ M, ∃ result p,
      (LoopState.pass site kind vars names (max 1 setting))^[passes]
          (.going 0 (limited.start site world)) = .ended result p ∧
        outcome = limited.conclude site result p) ∧
    outcome.calls.countP RunCall.isLoad ≤ M ∧
    Trial.Consecutive site kind vars limited.hooks world trials ∧
    outcome.calls.filterMap RunCall.job? = trials.map (·.job kind) ∧
    trials.length ≤ M ∧
    (∀ attempts lastError,
      outcome.result = .error (.attemptLimit attempts lastError) ↔
        trials.length = M ∧ (∀ trial ∈ trials, trial.Asked kind) ∧ attempts = M ∧
          ∃ last, trials.getLast? = some last ∧ lastError = last.error kind) ∧
    (∀ last, trials.getLast? = some last → ¬ last.Asked kind →
      outcome.result.map RunReport.outputs = last.outcome kind names) ∧
    limited.run site.recorded kind vars names (world, []) = outcome.recorded vars := by
  intro M limited outcome trials
  have hsound := limited.history_sound site kind vars world
  have hleft : limited.maxAttempts - 1 + 1 = M := Nat.sub_add_cancel (Nat.le_max_left 1 _)
  have hresult := limited.run_result site kind vars names world
  have hcalls := limited.run_calls site kind vars names world
  have hstarted : (limited.history site kind vars world).started ≤ M := by
    have hle := hsound.started_le
    omega
  refine ⟨?_, ?_, limited.consecutive_trials site kind vars world, ?_, ?_, ?_, ?_,
    limited.run_recorded site kind vars names world⟩
  · have hmax := toNat_max_one setting
    have hpos : 1 ≤ (max 1 setting).toNat := by
      omega
    simpa only [hmax] using exists_pass_eq_run site kind limited hpos hmax.symm vars names world
  · rw [hcalls, History.countP_isLoad_calls]
    exact hstarted
  · rw [hcalls, History.filterMap_job?_calls]
  · exact Nat.le_trans (History.length_trials_le_started _) hstarted
  · intro attempts lastError
    have hiff := hsound.result_eq_attemptLimit_iff names attempts lastError
    rw [hleft] at hiff
    rw [← hiff]
    exact limited.run_result_eq_error_iff site kind vars names world _
  · intro last hlast hunasked
    rw [hresult]
    exact hsound.result_of_not_asked names 1 hlast hunasked

end Runner

end ImageFlow
