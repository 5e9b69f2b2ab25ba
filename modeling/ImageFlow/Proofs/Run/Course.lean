import ImageFlow.Proofs.Run.History

/-!
# The course of a run

`Unfolds` says, attempt by attempt, how a run under way takes the course of a history, and what it
leaves.  `attemptsFrom_unfolds` is the only place where the loop of attempts and the parts of an
attempt are opened: what holds of every run is shown by induction on the course, whose constructors
carry what one attempt found and did.  Log events are left open.
-/

namespace ImageFlow

variable {η ω : Type}

namespace Progress

/-- The run once the loading of a template has been tried. -/
def opened (site : Site ω) (world : ω) (p : Progress η ω) : Progress η ω :=
  { p with
    audit := p.audit.record .start (site.now p.world)
    world
    calls := p.calls ++ [.load] }

/-- The run after an attempt whose job a hook could not prepare. -/
def afterFailure (site : Site ω) (kind : HookKind η) (number : Nat) (template : Workflow)
    (failure : HookError) (world : ω) (p : Progress η ω) : Progress η ω :=
  { p with
    audit :=
      ((p.audit.record .start (site.now p.world)).beginAttempt number template.name
        (site.now world)).finishAttempt (some failure.message) [] (site.now world)
    world
    calls := p.calls ++ .load :: (prepareAll kind 0 p.hooks (.ofWorkflow template)).calls }

/-- The run after an attempt that reached the engine. -/
def afterTrial (site : Site ω) (kind : HookKind η) (vars : Variables) (number : Nat)
    (trial : Trial η) (p : Progress η ω) : Progress η ω :=
  { p with
    hooks := trial.hooksAfter kind
    cancelled := trial.execution.cancels
    audit :=
      ((p.audit.record .start (site.now p.world)).beginAttempt number trial.template.name
        (site.now (site.load p.world).2)).finishAttempt
        (errorText (trial.error kind)) (trial.requested kind)
        (site.now (trial.worldAfter site kind vars p.world))
    world := trial.worldAfter site kind vars p.world
    calls := p.calls ++ trial.block kind }

end Progress

/-! ## One attempt -/

theorem attempt_of_cancelled
    (site : Site ω) (kind : HookKind η) (vars : Variables) (number : Nat) {p : Progress η ω}
    (hfired : p.cancelled = true) :
    ∃ events, attempt site kind vars number p =
      (.stopped (.cancelled number), { p with events }) := by
  refine ⟨(attempt site kind vars number p).2.events, ?_⟩
  simp [attempt, hfired, Progress.report]

theorem attempt_of_unloaded
    (site : Site ω) (kind : HookKind η) (vars : Variables) (number : Nat) {p : Progress η ω}
    {failure : TemplateError} {world : ω}
    (hunfired : p.cancelled = false) (hload : site.load p.world = (.error failure, world)) :
    ∃ events, attempt site kind vars number p =
      (.stopped (.template failure), { p.opened site world with events }) := by
  refine ⟨(attempt site kind vars number p).2.events, ?_⟩
  simp [attempt, hunfired, hload, Progress.listing, Progress.record, Progress.opened]

theorem attempt_of_unprepared
    (site : Site ω) (kind : HookKind η) (vars : Variables) (number : Nat) {p : Progress η ω}
    {template : Workflow} {world : ω} {hook : String} {failure : HookError}
    (hunfired : p.cancelled = false) (hload : site.load p.world = (.ok template, world))
    (hprepared :
      (prepareAll kind 0 p.hooks (.ofWorkflow template)).failure = some (hook, failure)) :
    ∃ events, attempt site kind vars number p =
      (.stopped (.setup hook failure),
        { p.afterFailure site kind number template failure world with events }) := by
  refine ⟨(attempt site kind vars number p).2.events, ?_⟩
  simp [attempt, hunfired, hload, prepareAndExecute, hprepared, Progress.listing, Progress.record,
    Progress.report, Progress.finishAttempt, Progress.afterFailure]

/-- How an attempt that reached the engine ends. -/
def Trial.ending (kind : HookKind η) (trial : Trial η) : AttemptEnd :=
  if (trial.requested kind).isEmpty then .settled trial.execution.job (trial.error kind)
  else .repeated (trial.requested kind) (trial.error kind)

theorem execute_eq
    (site : Site ω) (kind : HookKind η) (vars : Variables) {p : Progress η ω} {trial : Trial η}
    {world : ω}
    (hunfired : p.cancelled = false) (hhooks : trial.hooks = p.hooks)
    (hexecute : site.execute (trial.job kind) vars false p.world = (trial.execution, world)) :
    ∃ events, execute site kind vars (trial.job kind) p =
      (trial.ending kind,
        { hooks := trial.hooksAfter kind
          cancelled := trial.execution.cancels
          audit := p.audit.finishAttempt (errorText (trial.error kind)) (trial.requested kind)
            (site.now world)
          world, events
          calls := p.calls ++ .execute (trial.job kind) false
            :: callsAfter kind 0 trial.hooks trial.execution.error }) := by
  refine ⟨p.events ++ (judgeAll kind 0 trial.hooks trial.execution.error).events, ?_⟩
  simp only [execute, hunfired, hexecute, ← hhooks, requested_judgeAll, error_judgeAll,
    hooks_judgeAll, calls_judgeAll, Progress.listing, Progress.report, Progress.finishAttempt, Bool.false_or]
  change (if (trial.requested kind).isEmpty = true then _ else _) = _
  by_cases hunasked : (trial.requested kind).isEmpty = true
  · rw [Trial.ending, if_pos hunasked, if_pos hunasked]
    rfl
  · rw [Trial.ending, if_neg hunasked, if_neg hunasked]
    rfl

/-- An attempt whose job every hook prepares goes on to the engine. -/
theorem attempt_eq_execute
    (site : Site ω) (kind : HookKind η) (vars : Variables) (number : Nat) {p : Progress η ω}
    {trial : Trial η}
    (hunfired : p.cancelled = false) (harises : trial.Arises site kind vars p.hooks p.world) :
    ∃ events, attempt site kind vars number p =
      execute site kind vars (trial.job kind)
        { hooks := p.hooks
          cancelled := false
          audit := (p.audit.record .start (site.now p.world)).beginAttempt number
            trial.template.name (site.now (site.load p.world).2)
          world := (site.load p.world).2
          events
          calls := p.calls ++ .load ::
            callsBefore kind 0 trial.hooks (.ofWorkflow trial.template) } := by
  obtain ⟨hhooks, hloaded, hall, -⟩ := harises
  obtain ⟨events, hprepared⟩ := prepareAll_of_allPrepare kind 0 hall
  rw [hhooks] at hprepared
  simp only [attempt, hunfired, hloaded, prepareAndExecute, hprepared, Progress.report,
    Progress.listing, Progress.record, Bool.false_eq_true, if_false, Trial.job, hhooks,
    List.append_assoc, List.singleton_append]
  exact ⟨_, rfl⟩

theorem attempt_of_arises
    (site : Site ω) (kind : HookKind η) (vars : Variables) (number : Nat) {p : Progress η ω}
    {trial : Trial η}
    (hunfired : p.cancelled = false) (harises : trial.Arises site kind vars p.hooks p.world) :
    ∃ events, attempt site kind vars number p =
      (trial.ending kind, { p.afterTrial site kind vars number trial with events }) := by
  obtain ⟨before, hattempt⟩ := attempt_eq_execute site kind vars number hunfired harises
  obtain ⟨hhooks, -, -, hexecuted⟩ := harises
  have hexecute : site.execute (trial.job kind) vars false (site.load p.world).2 =
      (trial.execution, trial.worldAfter site kind vars p.world) := by
    rw [hexecuted]
    rfl
  rw [hattempt]
  obtain ⟨events, hend⟩ := execute_eq site kind vars
    (p := ⟨p.hooks, false, _, (site.load p.world).2, before, _⟩) rfl hhooks hexecute
  rw [hend]
  refine ⟨events, ?_⟩
  simp [Progress.afterTrial, Trial.block, Trial.job]

/-! ## All attempts -/

/-- The attempts from `number` on, of which `left` may follow the first, begin with `p`, take the
course of the history, and leave the result and the run beside it. -/
inductive Unfolds (site : Site ω) (kind : HookKind η) (vars : Variables) (names : List String) :
    Nat → Nat → Progress η ω → History η →
      Except RunError (OrderedMap String) × Progress η ω → Prop where
  | cancelled {left number p events}
      (fired : p.cancelled = true) :
      Unfolds site kind vars names left number p ⟨[], .cancelled⟩
        (.error (.cancelled number), { p with events })
  | unloaded {left number p failure world events}
      (unfired : p.cancelled = false) (load : site.load p.world = (.error failure, world)) :
      Unfolds site kind vars names left number p ⟨[], .unloaded failure⟩
        (.error (.template failure), { p.opened site world with events })
  | unprepared {left number p template world hook failure events}
      (unfired : p.cancelled = false) (load : site.load p.world = (.ok template, world))
      (gaveUp :
        (prepareAll kind 0 p.hooks (.ofWorkflow template)).failure = some (hook, failure)) :
      Unfolds site kind vars names left number p
        ⟨[], .unprepared p.hooks template hook failure⟩
        (.error (.setup hook failure),
          { p.afterFailure site kind number template failure world with events })
  | settled {left number p trial events}
      (unfired : p.cancelled = false) (arises : trial.Arises site kind vars p.hooks p.world)
      (unasked : trial.requested kind = []) :
      Unfolds site kind vars names left number p ⟨[], .settled trial⟩
        (trial.outcome kind names,
          { p.afterTrial site kind vars number trial with events })
  | limited {number p trial events}
      (unfired : p.cancelled = false) (arises : trial.Arises site kind vars p.hooks p.world)
      (asked : trial.requested kind ≠ []) :
      Unfolds site kind vars names 0 number p ⟨[], .limited trial⟩
        (.error (.attemptLimit number (trial.error kind)),
          { p.afterTrial site kind vars number trial with events })
  | repeated {left number p trial history ending events}
      (unfired : p.cancelled = false) (arises : trial.Arises site kind vars p.hooks p.world)
      (asked : trial.requested kind ≠ [])
      (next : Unfolds site kind vars names left (number + 1)
        (Progress.record site .retry { p.afterTrial site kind vars number trial with events })
        history ending) :
      Unfolds site kind vars names (left + 1) number p (history.following trial) ending

/-- The attempt that is executed in this world, once its template is loaded and prepared. -/
theorem exists_arises
    (site : Site ω) (kind : HookKind η) (vars : Variables) {hooks : List η} {world : ω}
    {template : Workflow}
    (hloaded : (site.load world).1 = .ok template)
    (hprepared : AllPrepare kind hooks (.ofWorkflow template)) :
    ∃ trial : Trial η, trial.Arises site kind vars hooks world := by
  let job := leftBy kind hooks (.ofWorkflow template)
  exact ⟨⟨hooks, template, (site.execute job vars false (site.load world).2).1⟩,
    rfl, hloaded, hprepared, rfl⟩

theorem historyFrom_of_arises
    (site : Site ω) (kind : HookKind η) (vars : Variables) (left : Nat) {hooks : List η}
    {world : ω} {trial : Trial η}
    (harises : trial.Arises site kind vars hooks world) :
    historyFrom site kind vars left hooks false world =
      if (trial.requested kind).isEmpty then ⟨[], .settled trial⟩
      else
        match left with
        | 0 => ⟨[], .limited trial⟩
        | left + 1 =>
          (historyFrom site kind vars left (trial.hooksAfter kind) trial.execution.cancels
            (trial.worldAfter site kind vars world)).following trial := by
  obtain ⟨hooks, template, execution⟩ := trial
  obtain ⟨rfl, hloaded, hall, hexecuted⟩ := harises
  obtain ⟨events, hprepared⟩ := prepareAll_of_allPrepare kind 0 hall
  simp only [Trial.job] at hloaded hprepared hexecuted
  subst hexecuted
  rw [historyFrom]
  simp only [hloaded, hprepared, Bool.false_eq_true, if_false]
  rfl

theorem settle_eq
    (kind : HookKind η) (names : List String) (trial : Trial η) (p : Progress η ω) :
    ∃ events, settle names trial.execution.job (trial.error kind) p =
      (trial.outcome kind names, { p with events }) := by
  cases herror : trial.error kind with
  | none => exact ⟨_, by rw [settle, Trial.outcome_eq, herror, readOutputs_eq_restrict]; rfl⟩
  | some error => exact ⟨_, by rw [settle, Trial.outcome_eq, herror]; rfl⟩

/-- The step of the induction: an attempt that reaches the engine is the last one, or the attempts
after it take their own course. -/
theorem unfolds_of_arises
    {site : Site ω} {kind : HookKind η} {vars : Variables} {names : List String}
    {left number : Nat} {p : Progress η ω} {trial : Trial η}
    (ih : ∀ left' < left, ∀ (number : Nat) (p : Progress η ω),
      Unfolds site kind vars names left' number p
        (historyFrom site kind vars left' p.hooks p.cancelled p.world)
        (attemptsFrom site kind vars names left' number p))
    (hunfired : p.cancelled = false) (harises : trial.Arises site kind vars p.hooks p.world) :
    Unfolds site kind vars names left number p
      (historyFrom site kind vars left p.hooks false p.world)
      (attemptsFrom site kind vars names left number p) := by
  obtain ⟨events, hattempt⟩ := attempt_of_arises site kind vars number hunfired harises
  rw [historyFrom_of_arises site kind vars left harises, attemptsFrom, hattempt, Trial.ending]
  by_cases hunasked : trial.requested kind = []
  · simp only [hunasked, List.isEmpty_nil, if_true]
    obtain ⟨events', hsettle⟩ :=
      settle_eq kind names trial { p.afterTrial site kind vars number trial with events }
    rw [hsettle]
    exact .settled hunfired harises hunasked
  · have hasked : (trial.requested kind).isEmpty = false := by
      simpa using hunasked
    simp only [hasked, Bool.false_eq_true, if_false]
    cases left with
    | zero => exact .limited hunfired harises hunasked
    | succ left =>
        apply Unfolds.repeated hunfired harises hunasked
        exact ih left (Nat.lt_succ_self left) (number + 1) _

/-- The attempts of a run take the course of the computed history. -/
theorem attemptsFrom_unfolds
    (site : Site ω) (kind : HookKind η) (vars : Variables) (names : List String)
    (left number : Nat) (p : Progress η ω) :
    Unfolds site kind vars names left number p
      (historyFrom site kind vars left p.hooks p.cancelled p.world)
      (attemptsFrom site kind vars names left number p) := by
  induction left using Nat.strongRecOn generalizing number p with
  | _ left ih =>
      cases hfired : p.cancelled with
      | true =>
          obtain ⟨events, hattempt⟩ := attempt_of_cancelled site kind vars number hfired
          rw [historyFrom, attemptsFrom, hattempt, if_pos rfl]
          exact .cancelled hfired
      | false =>
          cases hloaded : (site.load p.world).1 with
          | error failure =>
              have hload : site.load p.world = (.error failure, (site.load p.world).2) := by
                rw [← hloaded]
              obtain ⟨events, hattempt⟩ :=
                attempt_of_unloaded site kind vars number hfired hload
              rw [historyFrom, attemptsFrom, hattempt, hloaded]
              exact .unloaded hfired hload
          | ok template =>
              cases hprepared :
                  (prepareAll kind 0 p.hooks (.ofWorkflow template)).failure with
              | some found =>
                  obtain ⟨hook, failure⟩ := found
                  have hload : site.load p.world = (.ok template, (site.load p.world).2) := by
                    rw [← hloaded]
                  obtain ⟨events, hattempt⟩ :=
                    attempt_of_unprepared site kind vars number hfired hload hprepared
                  rw [historyFrom, attemptsFrom, hattempt, hloaded]
                  simp only [hprepared]
                  exact .unprepared hfired hload hprepared
              | none =>
                  have hall := (failure_prepareAll_eq_none_iff kind 0 p.hooks _).mp hprepared
                  obtain ⟨trial, harises⟩ := exists_arises site kind vars hloaded hall
                  exact unfolds_of_arises ih hfired harises

/-- A run takes the course of its history. -/
theorem Runner.unfolds
    (site : Site ω) (kind : HookKind η) (runner : Runner η) (vars : Variables)
    (names : List String) (world : ω) :
    Unfolds site kind vars names (runner.maxAttempts - 1) 1 (runner.start site world)
      (runner.history site kind vars world)
      (attemptsFrom site kind vars names (runner.maxAttempts - 1) 1
        (runner.start site world)) :=
  attemptsFrom_unfolds site kind vars names (runner.maxAttempts - 1) 1 (runner.start site world)

/-! ## What every course shows -/

/-- What the hooks' requests say of the attempts of a history, of which `left` may follow the
first. -/
structure History.Sound (kind : HookKind η) (left : Nat) (history : History η) : Prop where
  repeated_asked : ∀ trial ∈ history.repeated, trial.requested kind ≠ []
  length_repeated_le : history.repeated.length ≤ left
  settled_unasked : ∀ trial, history.last = .settled trial → trial.requested kind = []
  limited_asked : ∀ trial, history.last = .limited trial → trial.requested kind ≠ []
  length_of_limited : ∀ trial, history.last = .limited trial → history.repeated.length = left

namespace Unfolds

variable {site : Site ω} {kind : HookKind η} {vars : Variables} {names : List String}
  {left number : Nat} {p : Progress η ω} {history : History η}
  {ending : Except RunError (OrderedMap String) × Progress η ω}

theorem sound
    (h : Unfolds site kind vars names left number p history ending) :
    history.Sound kind left := by
  induction h with
  | cancelled => constructor <;> simp
  | unloaded => constructor <;> simp
  | unprepared => constructor <;> simp
  | settled _ _ unasked =>
      constructor
      all_goals simp_all
  | limited _ _ asked =>
      constructor
      all_goals simp_all
  | repeated _ _ asked _ ih =>
      constructor
      · intro trial htrial
        rcases List.mem_cons.mp htrial with rfl | htrial
        · exact asked
        · exact ih.repeated_asked trial htrial
      · exact Nat.succ_le_succ ih.length_repeated_le
      · exact ih.settled_unasked
      · exact ih.limited_asked
      · intro trial hlast
        exact congrArg Nat.succ (ih.length_of_limited trial hlast)

/-- The attempts that reach the engine follow one another. -/
theorem consecutive
    (h : Unfolds site kind vars names left number p history ending) :
    Trial.Consecutive site kind vars p.hooks p.world history.trials := by
  induction h with
  | cancelled => trivial
  | unloaded => trivial
  | unprepared => trivial
  | settled _ arises _ => exact ⟨arises, trivial⟩
  | limited _ arises _ => exact ⟨arises, trivial⟩
  | repeated _ arises _ _ ih => exact ⟨arises, ih⟩

/-- Nothing fails to load or to prepare if this is so for all hooks that satisfy an invariant of
judging. -/
theorem smooth
    (invariant : List η → Prop)
    (hjudged : ∀ hooks error, invariant hooks → invariant (judged kind hooks error))
    (hserved : ∀ hooks world, invariant hooks → ∃ template,
      (site.load world).1 = .ok template ∧ AllPrepare kind hooks (.ofWorkflow template))
    (h : Unfolds site kind vars names left number p history ending)
    (hstart : invariant p.hooks) :
    history.Smooth := by
  induction h with
  | cancelled => trivial
  | @unloaded _ _ p _ _ _ _ load =>
      obtain ⟨template, hloaded, -⟩ := hserved p.hooks p.world hstart
      rw [load] at hloaded
      cases hloaded
  | @unprepared _ _ p _ _ _ _ _ _ load gaveUp =>
      obtain ⟨template, hloaded, hall⟩ := hserved p.hooks p.world hstart
      rw [load] at hloaded
      cases hloaded
      rw [← failure_prepareAll_eq_none_iff kind 0, gaveUp] at hall
      cases hall
  | settled => trivial
  | limited => trivial
  | repeated _ arises _ _ ih =>
      apply ih
      rw [← arises.hooks_eq] at hstart
      exact hjudged _ _ hstart

/-- The result of the attempts is that of the history. -/
theorem result_eq
    (h : Unfolds site kind vars names left number p history ending) :
    ending.1 = history.result kind names number := by
  induction h with
  | cancelled => rfl
  | unloaded => rfl
  | unprepared => rfl
  | settled => rfl
  | limited => rfl
  | repeated _ _ _ _ ih =>
      rw [ih]
      simp only [History.result, History.last_following, History.repeated_following,
        List.length_cons]
      congr 1
      omega

/-- The hooks learn from the attempts that reach the engine, and from nothing else. -/
theorem hooks_eq
    (h : Unfolds site kind vars names left number p history ending) :
    ending.2.hooks =
      history.trials.foldl (fun hooks trial => judged kind hooks trial.execution.error)
        p.hooks := by
  induction h with
  | cancelled => rfl
  | unloaded => rfl
  | unprepared => rfl
  | settled _ arises _ => exact congrArg (judged kind · _) arises.hooks_eq
  | limited _ arises _ => exact congrArg (judged kind · _) arises.hooks_eq
  | repeated _ arises _ _ ih =>
      rw [ih, History.trials_following, List.foldl_cons, ← arises.hooks_eq]
      rfl

/-- The attempts make the calls of the history. -/
theorem calls_eq
    (h : Unfolds site kind vars names left number p history ending) :
    ending.2.calls = p.calls ++ history.calls kind := by
  induction h with
  | cancelled => simp [History.calls, LastAttempt.calls]
  | unloaded => simp [History.calls, LastAttempt.calls, Progress.opened]
  | unprepared => simp [History.calls, LastAttempt.calls, Progress.afterFailure]
  | settled => simp [History.calls, LastAttempt.calls, Progress.afterTrial]
  | limited => simp [History.calls, LastAttempt.calls, Progress.afterTrial]
  | repeated _ _ _ _ ih =>
      rw [ih, History.calls_following]
      simp [Progress.record, Progress.afterTrial]

end Unfolds

namespace Runner

variable (site : Site ω) (kind : HookKind η) (runner : Runner η) (vars : Variables)
  (names : List String) (world : ω)

theorem history_sound :
    (runner.history site kind vars world).Sound kind (runner.maxAttempts - 1) :=
  (runner.unfolds site kind vars [] world).sound

theorem consecutive_trials :
    Trial.Consecutive site kind vars runner.hooks world
      (runner.history site kind vars world).trials :=
  (runner.unfolds site kind vars [] world).consecutive

/-- A run comes to the result of its history. -/
theorem run_result :
    (runner.run site kind vars names world).result.map RunReport.outputs =
      (runner.history site kind vars world).result kind names 1 := by
  rw [← (runner.unfolds site kind vars names world).result_eq]
  cases hresult : (attemptsFrom site kind vars names (runner.maxAttempts - 1) 1
      (runner.start site world)).1 with
  | error error => simp [run, conclude, hresult, Except.map]
  | ok outputs => simp [run, conclude, hresult, Except.map]

theorem run_result_eq_error_iff (error : RunError) :
    (runner.run site kind vars names world).result = .error error ↔
      (runner.history site kind vars world).result kind names 1 = .error error := by
  rw [← run_result]
  cases (runner.run site kind vars names world).result with
  | error other => simp [Except.map]
  | ok report => simp [Except.map]

/-- A run makes the calls of its history. -/
theorem run_calls :
    (runner.run site kind vars names world).calls =
      (runner.history site kind vars world).calls kind := by
  simpa [run, conclude, Progress.record, start] using
    (runner.unfolds site kind vars names world).calls_eq

/-- The engine is handed the jobs of the attempts that reach it. -/
theorem jobs_run :
    (runner.run site kind vars names world).calls.filterMap RunCall.job? =
      (runner.history site kind vars world).trials.map (·.job kind) := by
  rw [run_calls, History.filterMap_job?_calls]

theorem hooks_run :
    (runner.run site kind vars names world).runner.hooks =
      (runner.history site kind vars world).trials.foldl
        (fun hooks trial => judged kind hooks trial.execution.error) runner.hooks :=
  (runner.unfolds site kind vars names world).hooks_eq

end Runner

end ImageFlow
