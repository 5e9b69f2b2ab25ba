import ImageFlow.Proofs.Run.Course
import ImageFlow.Proofs.Run.SiteCalls

/-!
# The calls of a run

A run calls the site and the hooks in one block per attempt.  `Trial.block` writes such a block out
call by call, with what each call is handed; here the calls of a whole run are shown to be the blocks
of its attempts one after another.  Only the last block can be incomplete, and it then breaks off at
the call that failed.
-/

namespace ImageFlow

variable {η ω : Type}

/-! ## Blocks -/

/-- An attempt of these hooks in this world makes these calls and then breaks off with a failure:
its template cannot be loaded, or some hook is the first that cannot prepare the job. -/
inductive BreaksOff (site : Site ω) (kind : HookKind η) (hooks : List η) (world : ω) :
    List RunCall → RunError → Prop where
  | unloaded {failure : TemplateError}
      (loaded : (site.load world).1 = .error failure) :
      BreaksOff site kind hooks world [.load] (.template failure)
  | unprepared {template : Workflow} {front back : List η} {hook : η} {failure : HookError}
      (loaded : (site.load world).1 = .ok template)
      (hooks_eq : hooks = front ++ hook :: back)
      (prepared : AllPrepare kind front (.ofWorkflow template))
      (gaveUp :
        (kind.before hook (leftBy kind front (.ofWorkflow template))).value.failure =
          some failure) :
      BreaksOff site kind hooks world
        (.load :: callsBefore kind 0 (front ++ [hook]) (.ofWorkflow template))
        (.setup (kind.name hook) failure)

/-- The calls of a last attempt that did not reach the engine. -/
def LastAttempt.incomplete (kind : HookKind η) : LastAttempt η → List RunCall
  | unloaded _ => [.load]
  | unprepared hooks template _ _ =>
    .load :: (prepareAll kind 0 hooks (.ofWorkflow template)).calls
  | _ => []

/-- The hooks as these attempts leave them. -/
def Trial.hooksLeft (kind : HookKind η) (hooks : List η) (trials : List (Trial η)) : List η :=
  trials.foldl (fun _ trial => trial.hooksAfter kind) hooks

/-- The world as these attempts leave it. -/
def Trial.worldLeft (site : Site ω) (kind : HookKind η) (vars : Variables) (world : ω)
    (trials : List (Trial η)) : ω :=
  trials.foldl (fun world trial => trial.worldAfter site kind vars world) world

/-- What judging keeps of the hooks holds of them in every attempt. -/
theorem Trial.Consecutive.of_judged
    {site : Site ω} {kind : HookKind η} {vars : Variables} {hooks : List η} {world : ω}
    {trials : List (Trial η)} {kept : List η → Prop}
    (hjudged : ∀ hooks error, kept hooks → kept (judged kind hooks error))
    (h : Trial.Consecutive site kind vars hooks world trials) (hstart : kept hooks) :
    ∀ trial ∈ trials, kept trial.hooks := by
  induction trials generalizing hooks world with
  | nil =>
      intro trial htrial
      cases htrial
  | cons first rest ih =>
      obtain ⟨harises, hrest⟩ := h
      rw [← harises.hooks_eq] at hstart
      exact List.forall_mem_cons.mpr ⟨hstart, ih hrest (hjudged _ _ hstart)⟩

theorem Trial.Consecutive.hooksLeft_eq
    {site : Site ω} {kind : HookKind η} {vars : Variables} {hooks : List η} {world : ω}
    {trials : List (Trial η)} (h : Trial.Consecutive site kind vars hooks world trials) :
    Trial.hooksLeft kind hooks trials =
      trials.foldl (fun hooks trial => judged kind hooks trial.execution.error) hooks := by
  induction trials generalizing hooks world with
  | nil => rfl
  | cons trial rest ih =>
      obtain ⟨harises, hrest⟩ := h
      have hafter : judged kind hooks trial.execution.error = trial.hooksAfter kind := by
        rw [Trial.hooksAfter, harises.hooks_eq]
      rw [List.foldl_cons, hafter, ← ih hrest]
      rfl

namespace History

variable {kind : HookKind η} (history : History η)

/-- The calls of a history are the blocks of its attempts, one after another. -/
theorem calls_eq_blocks (kind : HookKind η) :
    history.calls kind =
      history.trials.flatMap (·.block kind) ++ history.last.incomplete kind := by
  obtain ⟨repeated, last⟩ := history
  cases last <;> simp [calls, trials, LastAttempt.calls, LastAttempt.incomplete]

/-- Attempts make no calls exactly when none of them began a block. -/
theorem blocks_eq_nil_iff (kind : HookKind η) (trials : List (Trial η))
    (incomplete : List RunCall) :
    trials.flatMap (·.block kind) ++ incomplete = [] ↔ ¬ (trials ≠ [] ∨ incomplete ≠ []) := by
  cases trials with
  | nil => simp
  | cons trial rest => simp [Trial.block]

end History

/-! ## All attempts -/

namespace Unfolds

variable {site : Site ω} {kind : HookKind η} {vars : Variables} {names : List String}
  {left number : Nat} {p : Progress η ω} {history : History η}
  {ending : Except RunError (OrderedMap String) × Progress η ω}

/-- Attempts with an unfired token begin a block, and no others do. -/
theorem begins_iff
    (h : Unfolds site kind vars names left number p history ending) :
    (history.trials ≠ [] ∨ history.last.incomplete kind ≠ []) ↔ p.cancelled = false := by
  cases h with
  | cancelled fired => simp [History.trials, LastAttempt.incomplete, fired]
  | unloaded unfired => simp [LastAttempt.incomplete, unfired]
  | unprepared unfired => simp [LastAttempt.incomplete, unfired]
  | settled unfired => simp [History.trials, unfired]
  | limited unfired => simp [History.trials, unfired]
  | repeated unfired => simp [unfired]

/-- A block follows a complete one exactly when some hook asked for it, the token was not fired
meanwhile, and another attempt is allowed. -/
theorem follows_iff
    (h : Unfolds site kind vars names left number p history ending)
    {earlier later : List (Trial η)} {trial : Trial η}
    (htrials : history.trials = earlier ++ trial :: later) :
    (later ≠ [] ∨ history.last.incomplete kind ≠ []) ↔
      trial.Asked kind ∧ trial.execution.cancels = false ∧ earlier.length < left := by
  rw [← trial.requested_ne_nil_iff kind]
  induction h generalizing earlier with
  | cancelled => simp [History.trials] at htrials
  | unloaded => simp [History.trials] at htrials
  | unprepared => simp [History.trials] at htrials
  | settled _ _ unasked =>
      obtain ⟨rfl, rfl, rfl⟩ : earlier = [] ∧ trial = _ ∧ later = [] := by
        simpa [History.trials, List.singleton_eq_append_iff] using htrials
      simp [LastAttempt.incomplete, unasked]
  | limited =>
      obtain ⟨rfl, rfl, rfl⟩ : earlier = [] ∧ trial = _ ∧ later = [] := by
        simpa [History.trials, List.singleton_eq_append_iff] using htrials
      simp [LastAttempt.incomplete]
  | repeated _ _ asked next ih =>
      rw [History.trials_following] at htrials
      cases earlier with
      | nil =>
          obtain ⟨rfl, rfl⟩ := List.cons.inj htrials
          rw [History.last_following, next.begins_iff]
          simp [asked, Progress.record, Progress.afterTrial]
      | cons first earlier =>
          rw [History.last_following, ih (List.cons.inj htrials).2]
          simp

/-- An incomplete block is that of an attempt that breaks off, and its failure is the result. -/
theorem breaksOff
    (h : Unfolds site kind vars names left number p history ending) :
    history.last.incomplete kind = [] ∨
      ∃ failure,
        BreaksOff site kind (Trial.hooksLeft kind p.hooks history.trials)
          (Trial.worldLeft site kind vars p.world history.trials)
          (history.last.incomplete kind) failure ∧
        ending.1 = .error failure := by
  induction h with
  | cancelled => exact .inl rfl
  | @unloaded left number p failure world events unfired load =>
      refine .inr ⟨.template failure, .unloaded ?_, rfl⟩
      exact congrArg Prod.fst load
  | @unprepared left number p template world hook failure events unfired load gaveUp =>
      obtain ⟨front, last, back, hhooks, hfront, hlast, rfl, hcalls⟩ :=
        exists_gaveUp kind 0 p.hooks _ gaveUp
      refine .inr ⟨.setup (kind.name last) failure, ?_, rfl⟩
      rw [LastAttempt.incomplete, hcalls]
      exact .unprepared (congrArg Prod.fst load) hhooks hfront hlast
  | settled => exact .inl rfl
  | limited => exact .inl rfl
  | repeated _ _ _ _ ih => exact ih

end Unfolds

/-! ## Runs -/

namespace Runner

/-- The calls of a run.  They are the blocks of its consecutive attempts: each loads a template, has
every hook in order prepare that one job, executes it once, and has every hook in order judge the
outcome, each handed the error that the one before it handed on.  There are none exactly when the
token was fired before the run.  A block follows a complete one exactly when some hook asked for it,
the token was not fired meanwhile, and the limit allows it.  Only the last block can be incomplete:
it ends with a load that failed, or with the first hook that could not prepare the job, and that
failure is the result.  The calls of the site are listed as they are made: a site that writes down
what it is asked finds them in this order. -/
theorem run_calls_in_blocks
    (site : Site ω) (kind : HookKind η) (runner : Runner η) (vars : Variables)
    (names : List String) (world : ω) :
    let outcome := runner.run site kind vars names world
    ∃ (trials : List (Trial η)) (incomplete : List RunCall),
      outcome.calls = trials.flatMap (·.block kind) ++ incomplete ∧
      Trial.Consecutive site kind vars runner.hooks world trials ∧
      (outcome.calls = [] ↔ runner.cancelled = true) ∧
      (∀ earlier trial later, trials = earlier ++ trial :: later →
        ((later ≠ [] ∨ incomplete ≠ []) ↔
          trial.Asked kind ∧ trial.execution.cancels = false ∧
            earlier.length + 1 < max 1 runner.maxAttempts)) ∧
      (incomplete = [] ∨
        ∃ failure,
          BreaksOff site kind (Trial.hooksLeft kind runner.hooks trials)
            (Trial.worldLeft site kind vars world trials) incomplete failure ∧
          outcome.result = .error failure) ∧
      runner.run site.recorded kind vars names (world, []) = outcome.recorded vars := by
  intro outcome
  have hunfolds := runner.unfolds site kind vars names world
  have hconsecutive := runner.consecutive_trials site kind vars world
  have hcalls : outcome.calls = _ := runner.run_calls site kind vars names world
  rw [History.calls_eq_blocks] at hcalls
  refine ⟨_, _, hcalls, hconsecutive, ?_, ?_, ?_, runner.run_recorded site kind vars names world⟩
  · rw [hcalls, History.blocks_eq_nil_iff, hunfolds.begins_iff, Bool.not_eq_false]
    rfl
  · intro earlier trial later htrials
    have hlimit : earlier.length < runner.maxAttempts - 1 ↔
        earlier.length + 1 < max 1 runner.maxAttempts := by
      omega
    rw [hunfolds.follows_iff htrials, hlimit]
  · rcases hunfolds.breaksOff with hnone | ⟨failure, hbreaks, hfailure⟩
    · exact .inl hnone
    · refine .inr ⟨failure, hbreaks, ?_⟩
      apply (runner.run_result_eq_error_iff site kind vars names world failure).mpr
      rw [← hunfolds.result_eq, hfailure]

end Runner

end ImageFlow
