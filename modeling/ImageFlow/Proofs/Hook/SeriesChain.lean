import ImageFlow.Proofs.Hook.MachineTypes
import ImageFlow.Proofs.Run.Course

/-!
# Chains around a selection of a machine series

A chain with one selection among hooks that select nothing.  The hooks before the selection hand on
every error as it is, so the selection judges what the engine reported; those after it may replace
an error, but neither ask for another attempt nor learn anything.  The whole chain therefore has the
two states of the selection, and an outcome moves it to the second one for good exactly when it
reports that the quota of the first series is exhausted.
-/

namespace ImageFlow

/-- An outcome reports that the CPU quota of a machine series is exhausted: its text contains the
name of that quota, such as `N2_CPUS` for the series `n2`. -/
def Quota.Reported (series : String) (error : Option WorkflowError) : Prop :=
  ∃ failure, error = some failure ∧
    (Text.upper series ++ "_CPUS").toList <:+: failure.message.toList

namespace Builtin

/-- A hook hands on every error as it is and asks for nothing. -/
def Passes (hook : Builtin) : Prop :=
  ∀ error, (hook.judge error).value = .pass hook error

/-- A hook that selects no series asks for nothing and stays as it is. -/
theorem judge_of_not_selectsSeries
    {hook : Builtin} (hother : hook.selectsSeries = false) (error : Option WorkflowError) :
    ∃ handed, (hook.judge error).value = .pass hook handed := by
  cases hook with
  | machineSeries series => cases hother
  | releaseCheck specified detected => exact ⟨_, rfl⟩
  | _ => exact ⟨error, rfl⟩

variable (files : FileNode) {hooks : List Builtin}

theorem judged_of_not_selectsSeries
    (hothers : ∀ hook ∈ hooks, hook.selectsSeries = false) (error : Option WorkflowError) :
    judged (kind files) hooks error = hooks := by
  induction hooks generalizing error with
  | nil => rfl
  | cons hook rest ih =>
      obtain ⟨hhook, hrest⟩ := List.forall_mem_cons.mp hothers
      obtain ⟨handed, hjudge⟩ := judge_of_not_selectsSeries hhook error
      have hlater := ih hrest handed
      simp only [judged, verdicts, kind, hjudge, Verdict.pass, List.map_cons] at hlater ⊢
      rw [hlater]

theorem requesters_of_not_selectsSeries
    (hothers : ∀ hook ∈ hooks, hook.selectsSeries = false) (error : Option WorkflowError) :
    requesters (kind files) hooks error = [] := by
  induction hooks generalizing error with
  | nil => rfl
  | cons hook rest ih =>
      obtain ⟨hhook, hrest⟩ := List.forall_mem_cons.mp hothers
      obtain ⟨handed, hjudge⟩ := judge_of_not_selectsSeries hhook error
      have hlater := ih hrest handed
      simpa [requesters, verdicts, kind, hjudge, Verdict.pass] using hlater

theorem handedOn_of_passes
    (hpasses : ∀ hook ∈ hooks, hook.Passes) (error : Option WorkflowError) :
    handedOn (kind files) hooks error = error := by
  induction hooks with
  | nil => rfl
  | cons hook rest ih =>
      obtain ⟨hhook, hrest⟩ := List.forall_mem_cons.mp hpasses
      have hfirst : ((kind files).after hook error).value.error = error :=
        congrArg Verdict.error (hhook error)
      rw [handedOn, List.foldl_cons, hfirst]
      exact ih hrest

/-- Preparations by hooks that select no series leave names and machine types as they are. -/
theorem machines_foldl_prepare
    (hothers : ∀ hook ∈ hooks, hook.selectsSeries = false) (job : Job) :
    (hooks.foldl (fun job hook => ((kind files).before hook job).value.job) job).workflow.machines =
      job.workflow.machines := by
  induction hooks generalizing job with
  | nil => rfl
  | cons hook rest ih =>
      obtain ⟨hhook, hrest⟩ := List.forall_mem_cons.mp hothers
      rw [List.foldl_cons, ih hrest]
      exact machines_prepare files hhook job

end Builtin

theorem SeriesFallback.error_judge (s : SeriesFallback) (error : Option WorkflowError) :
    (s.judge error).value.error = error := by
  rw [judge]
  split
  · split <;> rfl
  · rfl

/-! ## A selection among hooks that select nothing -/

namespace Builtin

section Selection

variable (files : FileNode) {front back : List Builtin} (s : SeriesFallback)

theorem verdicts_selection (error : Option WorkflowError) :
    verdicts (kind files) (.machineSeries s :: back) error =
      (s.judge error).value.map .machineSeries :: verdicts (kind files) back error := by
  have herror := s.error_judge error
  simp [verdicts, kind, judge, Verdict.map, herror]

variable (hpasses : ∀ hook ∈ front, hook.Passes)

include hpasses

/-- Only the hooks behind a selection may replace an error. -/
theorem handedOn_selection (error : Option WorkflowError) :
    handedOn (kind files) (front ++ .machineSeries s :: back) error =
      handedOn (kind files) back error := by
  have hselection : ((kind files).after (.machineSeries s) error).value.error = error :=
    s.error_judge error
  rw [handedOn_append, handedOn_of_passes files hpasses, handedOn, List.foldl_cons, hselection]
  rfl

variable (hfront : ∀ hook ∈ front, hook.selectsSeries = false)
  (hback : ∀ hook ∈ back, hook.selectsSeries = false)

include hfront hback

/-- An outcome changes nothing but the selection. -/
theorem judged_selection (error : Option WorkflowError) :
    judged (kind files) (front ++ .machineSeries s :: back) error =
      front ++ .machineSeries (s.judge error).value.hook :: back := by
  have hrest := judged_of_not_selectsSeries files hback error
  rw [judged] at hrest
  rw [judged_append, judged_of_not_selectsSeries files hfront, handedOn_of_passes files hpasses,
    judged, verdicts_selection, List.map_cons, hrest]
  rfl

/-- Another attempt is asked for exactly when the selection asks for one. -/
theorem requesters_selection_ne_nil_iff (error : Option WorkflowError) :
    requesters (kind files) (front ++ .machineSeries s :: back) error ≠ [] ↔
      (s.judge error).value.retry = true := by
  have hrest := requesters_of_not_selectsSeries files hback error
  rw [requesters, List.map_eq_nil_iff] at hrest
  rw [requesters_append, requesters_of_not_selectsSeries files hfront,
    handedOn_of_passes files hpasses, requesters, verdicts_selection, List.filter_cons, hrest]
  split
  · next hasked => exact iff_of_true (by simp) hasked
  · next hunasked => exact iff_of_false (by simp) hunasked

omit hpasses in
/-- The hooks leave every machine type moved to the series that is selected. -/
theorem machines_leftBy_selection (template : Workflow) :
    (leftBy (kind files) (front ++ .machineSeries s :: back)
        (.ofWorkflow template)).workflow.machines =
      template.machines.map fun machine =>
        (machine.1, MachineType.inSeries s.active machine.2) := by
  rw [leftBy, List.foldl_append, List.foldl_cons, machines_foldl_prepare files hback]
  refine (s.machines_prepare _).trans ?_
  rw [machines_foldl_prepare files hfront]
  rfl

end Selection

/-! ## The chain that every run gets -/

/-- The hooks of every run before the selection of a series. -/
def leading (env : Environment) : List Builtin :=
  [environment env, labels env, network env.network env.subnet]

/-- The hooks of every run behind the selection of a series. -/
def trailing (env : Environment) : List Builtin :=
  if env.nestedVirtualization then [nestedVirtualization] else []

theorem defaults_eq (env : Environment) (troubleshootingUrl : String) :
    defaults env troubleshootingUrl =
      leading env ++ seriesOf env troubleshootingUrl ++ trailing env := rfl

variable {env : Environment} {hook : Builtin}

theorem passes_of_mem_leading (h : hook ∈ leading env) : hook.Passes := by
  intro error
  simp only [leading, List.mem_cons, List.not_mem_nil, or_false] at h
  rcases h with rfl | rfl | rfl <;> rfl

theorem selectsSeries_of_mem_leading (h : hook ∈ leading env) : hook.selectsSeries = false := by
  simp only [leading, List.mem_cons, List.not_mem_nil, or_false] at h
  rcases h with rfl | rfl | rfl <;> rfl

theorem selectsSeries_of_mem_trailing (h : hook ∈ trailing env) : hook.selectsSeries = false := by
  rw [trailing] at h
  split at h
  · rw [List.mem_singleton.mp h]
    rfl
  · cases h

end Builtin

/-- A chain with one selection of a machine series, which has a second series to fall back to. -/
structure SeriesChain where
  front : List Builtin
  back : List Builtin
  primary : String
  secondary : String
  troubleshootingUrl : String
  front_passes : ∀ hook ∈ front, hook.Passes
  front_others : ∀ hook ∈ front, hook.selectsSeries = false
  back_others : ∀ hook ∈ back, hook.selectsSeries = false
  primary_ne_empty : primary ≠ ""

namespace SeriesChain

variable (chain : SeriesChain) (state : FallbackState)

/-- The selection of the chain. -/
def selection : SeriesFallback where
  primary := chain.primary
  secondary := some chain.secondary
  state := state
  troubleshootingUrl := chain.troubleshootingUrl

def hooks : List Builtin :=
  chain.front ++ .machineSeries (chain.selection state) :: chain.back

/-- The series that the chain moves machine types to. -/
def series : FallbackState → String
  | .primary => chain.primary
  | .fallenBack => chain.secondary

/-- The state of the chain after an outcome. -/
def after (error : Option WorkflowError) : FallbackState :=
  if error.any (Quota.isExhausted · chain.primary) then .fallenBack else state

theorem any_isExhausted_iff (error : Option WorkflowError) :
    error.any (Quota.isExhausted · chain.primary) = true ↔
      Quota.Reported chain.primary error := by
  simp [Quota.Reported, Option.any_eq_true, Quota.isExhausted_iff, chain.primary_ne_empty]

theorem after_eq_fallenBack_iff (error : Option WorkflowError) :
    chain.after state error = .fallenBack ↔
      state = .fallenBack ∨ Quota.Reported chain.primary error := by
  rw [after, ← chain.any_isExhausted_iff]
  split
  · next hexhausted => simp [hexhausted]
  · next hother => simp [hother]

theorem judge_selection (error : Option WorkflowError) :
    ((chain.selection state).judge error).value =
      { hook := chain.selection (chain.after state error)
        retry := state = .primary ∧ error.any (Quota.isExhausted · chain.primary)
        error } := by
  cases state with
  | primary =>
      rw [after]
      cases hexhausted : error.any (Quota.isExhausted · chain.primary) with
      | true => simp [SeriesFallback.judge, selection, SeriesFallback.isExhausted, hexhausted]
      | false =>
          simp [SeriesFallback.judge, selection, SeriesFallback.isExhausted, hexhausted,
            Logged.quiet, Verdict.pass]
  | fallenBack => simp [SeriesFallback.judge, selection, after, Logged.quiet, Verdict.pass]

variable (files : FileNode)

/-- An outcome moves the chain from one of its states to another, and changes nothing else. -/
theorem judged_hooks (error : Option WorkflowError) :
    judged (Builtin.kind files) (chain.hooks state) error =
      chain.hooks (chain.after state error) := by
  rw [hooks, Builtin.judged_selection files _ chain.front_passes chain.front_others
    chain.back_others, judge_selection]
  rfl

/-- Another attempt is asked for exactly when the first series is selected and its quota is
reported to be exhausted. -/
theorem requesters_hooks_ne_nil_iff (error : Option WorkflowError) :
    requesters (Builtin.kind files) (chain.hooks state) error ≠ [] ↔
      state = .primary ∧ Quota.Reported chain.primary error := by
  rw [hooks, Builtin.requesters_selection_ne_nil_iff files _ chain.front_passes chain.front_others
    chain.back_others, judge_selection, ← chain.any_isExhausted_iff]
  exact decide_eq_true_iff

/-- Only the hooks behind the selection may replace an error. -/
theorem handedOn_hooks (error : Option WorkflowError) :
    handedOn (Builtin.kind files) (chain.hooks state) error =
      handedOn (Builtin.kind files) chain.back error :=
  Builtin.handedOn_selection files (chain.selection state) chain.front_passes error

theorem active_selection : (chain.selection state).active = chain.series state := by
  cases state <;> rfl

end SeriesChain

end ImageFlow
