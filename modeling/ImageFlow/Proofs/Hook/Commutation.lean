import ImageFlow.Proofs.Hook.Attributes
import ImageFlow.Proofs.Hook.SeriesChain
import ImageFlow.Proofs.Run.Calls
import Mathlib.Data.List.Pairwise

/-!
# Hooks that can change places

Hooks of different concerns change different attributes, so the order of their preparations does not
matter, at any depth of the workflow.  There is one exception: the environment sets the project in
which the key of the encryption is named.  A chain without such a pair prepares a job in whatever
order its hooks stand, and it gives up exactly when one of its hooks would by itself.
-/

namespace ImageFlow

/-! ## Concerns -/

/-- Hooks of the two concerns can change places. -/
def Concern.Independent (first second : Concern) : Prop :=
  first ≠ second ∧ (first, second) ≠ (environment, encryption) ∧
    (first, second) ≠ (encryption, environment)

instance (first second : Concern) : Decidable (first.Independent second) :=
  inferInstanceAs (Decidable (_ ∧ _))

theorem Concern.Independent.symm {first second : Concern} (h : first.Independent second) :
    second.Independent first := by
  obtain ⟨hne, hkeyed, hkeyed'⟩ := h
  refine ⟨hne.symm, ?_, ?_⟩
  · rintro ⟨⟩
    exact hkeyed' rfl
  · rintro ⟨⟩
    exact hkeyed rfl

/-- The change keeps all attributes but those of one concern. -/
structure AttributeChange.OnlyOf (concern : Concern) (change : AttributeChange) : Prop where
  machineType : concern ≠ .machineSeries → change.machineType = id
  features : concern ≠ .nestedVirtualization → change.features = id
  networkInterfaces : concern ≠ .network → change.networkInterfaces = id
  temporaryLabels : concern ≠ .labels → change.temporaryLabels = id
  imageLabels : concern ≠ .labels → change.imageLabels = id
  encryptionKey : concern ≠ .encryption → change.encryptionKey = id

theorem AttributeChange.OnlyOf.after_comm
    {first second : AttributeChange} {concern other : Concern} (hne : concern ≠ other)
    (hfirst : first.OnlyOf concern) (hsecond : second.OnlyOf other) :
    second.after first = first.after second := by
  have hcomp {α : Type} {f g : α → α} {changing : Concern}
      (hf : concern ≠ changing → f = id) (hg : other ≠ changing → g = id) : g ∘ f = f ∘ g := by
    by_cases hconcern : concern = changing
    · rw [hg (hconcern ▸ hne.symm)]
      rfl
    · rw [hf hconcern]
      rfl
  simp only [after, hcomp hfirst.machineType hsecond.machineType,
    hcomp hfirst.features hsecond.features,
    hcomp hfirst.networkInterfaces hsecond.networkInterfaces,
    hcomp hfirst.temporaryLabels hsecond.temporaryLabels,
    hcomp hfirst.imageLabels hsecond.imageLabels,
    hcomp hfirst.encryptionKey hsecond.encryptionKey]

namespace Builtin

theorem onlyOf_change (hook : Builtin) (project : String) :
    (hook.change project).OnlyOf hook.concern := by
  cases hook <;> constructor <;> simp [change, concern]

/-! ## Two hooks -/

/-- The hooks leave the same job in either order. -/
def SameJob (files : FileNode) (first second : Builtin) : Prop :=
  ∀ job,
    (second.prepare files (first.prepare files job).value.job).value.job =
      (first.prepare files (second.prepare files job).value.job).value.job

instance (files : FileNode) : Std.Symm (SameJob files) :=
  ⟨fun _ _ h job => (h job).symm⟩

/-- The hooks leave the same job in either order, and the second one gives up after the first exactly
when it does without. -/
structure Commute (files : FileNode) (first second : Builtin) : Prop where
  job_eq : SameJob files first second
  failure_eq : ∀ job,
    (second.prepare files (first.prepare files job).value.job).value.failure =
      (second.prepare files job).value.failure

variable (files : FileNode)

theorem commute_of_others
    {first second : Builtin} (hfirst : first.concern ≠ .environment)
    (hsecond : second.concern ≠ .environment) (h : first.concern ≠ second.concern) :
    Commute files first second := by
  constructor
  · intro job
    have hcomm := (onlyOf_change first job.workflow.project).after_comm h
      (onlyOf_change second job.workflow.project)
    rw [value_prepare_prepare files hfirst hsecond, value_prepare_prepare files hsecond hfirst,
      hcomm]
  · intro job
    rw [value_prepare_prepare files hfirst hsecond, value_prepare files hsecond]

section Environment

variable (env : Environment) {hook : Builtin} (hother : hook.concern ≠ .environment)
  (hkeyless : hook.concern ≠ .encryption)

include hother

/-- The environment is laid over what another hook leaves as over what it was given. -/
theorem value_prepare_environment_after (job : Job) :
    ((environment env).prepare files (hook.prepare files job).value.job).value =
      ((environment env).prepare files job).value.mapJob
        (Job.mapWorkflow (hook.change job.workflow.project).apply) := by
  rw [value_prepare files hother]
  exact EnvironmentOverlay.value_prepare_mapWork files env _ job

include hkeyless

/-- A hook that names no key does not depend on the environment. -/
theorem value_prepare_after_environment (job : Job) :
    (hook.prepare files ((environment env).prepare files job).value.job).value =
      { job := ((environment env).prepare files job).value.job.mapWorkflow
          (hook.change job.workflow.project).apply
        failure := hook.refusal? job.workflow.project } := by
  rw [value_prepare files hother, change_eq_of_keyless hkeyless _ job.workflow.project,
    refusal?_eq_of_keyless hkeyless _ job.workflow.project]

theorem commute_environment_left : Commute files (environment env) hook := by
  constructor
  · intro job
    rw [value_prepare_after_environment files env hother hkeyless,
      value_prepare_environment_after files env hother]
    rfl
  · intro job
    rw [value_prepare_after_environment files env hother hkeyless, value_prepare files hother]

theorem commute_environment_right : Commute files hook (environment env) := by
  constructor
  · intro job
    exact ((commute_environment_left files env hother hkeyless).job_eq job).symm
  · intro job
    rw [value_prepare_environment_after files env hother]
    rfl

end Environment

/-- Hooks of independent concerns can change places. -/
theorem commute_of_independent
    {first second : Builtin} (h : first.concern.Independent second.concern) :
    Commute files first second := by
  obtain ⟨hne, hkeyed, hkeyed'⟩ := h
  by_cases hfirst : first.concern = .environment
  · obtain ⟨env, rfl⟩ := exists_eq_environment hfirst
    apply commute_environment_left files env hne.symm
    exact fun hsecond => hkeyed (Prod.ext rfl hsecond)
  · by_cases hsecond : second.concern = .environment
    · obtain ⟨env, rfl⟩ := exists_eq_environment hsecond
      apply commute_environment_right files env hne
      exact fun hfirst => hkeyed' (Prod.ext hfirst rfl)
    · exact commute_of_others files hfirst hsecond hne

/-! ## Chains -/

section Chains

variable {hooks others : List Builtin} (h : (hooks.map concern).Pairwise Concern.Independent)

include h

/-- Hooks of independent concerns prepare a job one after another exactly when each of them can
prepare it by itself. -/
theorem allPrepare_iff (job : Job) :
    AllPrepare (kind files) hooks job ↔
      ∀ hook ∈ hooks, (hook.prepare files job).value.failure = none := by
  induction hooks generalizing job with
  | nil => simp [AllPrepare]
  | cons hook rest ih =>
      rw [List.map_cons, List.pairwise_cons] at h
      obtain ⟨hhook, hrest⟩ := h
      -- the hooks behind do not see that this one has prepared the job
      have hlater : ∀ other ∈ rest,
          (other.prepare files (hook.prepare files job).value.job).value.failure =
            (other.prepare files job).value.failure := by
        intro other hother
        have hindependent := hhook other.concern (List.mem_map_of_mem hother)
        exact (commute_of_independent files hindependent).failure_eq job
      rw [List.forall_mem_cons, AllPrepare, ih hrest]
      simp +contextual [kind, hlater]

/-- Hooks of independent concerns leave the same job in any order. -/
theorem leftBy_perm (hperm : others.Perm hooks) (job : Job) :
    leftBy (kind files) others job = leftBy (kind files) hooks job := by
  have hjobs : hooks.Pairwise (SameJob files) := by
    rw [List.pairwise_map] at h
    exact h.imp fun hindependent => (commute_of_independent files hindependent).job_eq
  symm
  apply hperm.symm.foldl_eq'
  intro first hfirst second hsecond
  exact hjobs.forall_of_forall (fun _ _ _ => rfl) hfirst hsecond

/-- A reordered chain can prepare a job exactly when the chain can, and leaves the same job. -/
theorem prepareAll_perm (hperm : others.Perm hooks) (job : Job) :
    ((prepareAll (kind files) 0 others job).failure = none ↔
        (prepareAll (kind files) 0 hooks job).failure = none) ∧
      ((prepareAll (kind files) 0 hooks job).failure = none →
        (prepareAll (kind files) 0 others job).job = (prepareAll (kind files) 0 hooks job).job) := by
  have hothers : (others.map concern).Pairwise Concern.Independent :=
    (hperm.map concern).symm.pairwise h Concern.Independent.symm
  have hfailure : (prepareAll (kind files) 0 others job).failure = none ↔
      (prepareAll (kind files) 0 hooks job).failure = none := by
    rw [failure_prepareAll_eq_none_iff, failure_prepareAll_eq_none_iff,
      allPrepare_iff files hothers, allPrepare_iff files h]
    exact forall_congr' fun hook => by rw [hperm.mem_iff]
  refine ⟨hfailure, ?_⟩
  intro hprepared
  rw [job_prepareAll hprepared, job_prepareAll (hfailure.mpr hprepared)]
  exact leftBy_perm files h hperm job

end Chains

/-- A hook keeps its concern, whatever it learns. -/
theorem concern_judge (hook : Builtin) (error : Option WorkflowError) :
    (hook.judge error).value.hook.concern = hook.concern := by
  cases hook <;> rfl

theorem pairwise_concern_defaults (env : Environment) (troubleshootingUrl : String) :
    ((defaults env troubleshootingUrl).map concern).Pairwise Concern.Independent := by
  have hall : [Concern.environment, .labels, .network, .machineSeries, .nestedVirtualization].Pairwise
      Concern.Independent := by decide
  have hseries : ((seriesOf env troubleshootingUrl).map concern).Sublist [.machineSeries] := by
    rw [seriesOf]
    split <;> simp [concern]
  have htrailing : ((trailing env).map concern).Sublist [.nestedVirtualization] := by
    rw [trailing]
    split <;> simp [concern]
  refine hall.sublist ?_
  rw [defaults_eq, List.map_append, List.map_append]
  exact ((List.Sublist.refl _).append hseries).append htrailing

/-- The order of hooks of different concerns does not matter, but for the environment and the
encryption.  Two of them leave the same job in either order, and neither changes whether the other
can prepare it.  The chain that every run gets, in whatever state it is after some attempts, can
therefore be put in any order: it can prepare the same jobs, and leaves the same of each. -/
theorem independent_preparations_commute :
    (∀ first second : Builtin, first.concern.Independent second.concern →
      Commute files first second) ∧
    ∀ (env : Environment) (troubleshootingUrl : String) (errors : List (Option WorkflowError))
      (others : List Builtin),
      let hooks := judgedAlong (kind files) (defaults env troubleshootingUrl) errors
      others.Perm hooks → ∀ job,
        ((prepareAll (kind files) 0 others job).failure = none ↔
          (prepareAll (kind files) 0 hooks job).failure = none) ∧
        ((prepareAll (kind files) 0 hooks job).failure = none →
          (prepareAll (kind files) 0 others job).job =
            (prepareAll (kind files) 0 hooks job).job) := by
  refine ⟨fun first second h => commute_of_independent files h, ?_⟩
  intro env troubleshootingUrl errors others hooks hperm job
  have hindependent : (hooks.map concern).Pairwise Concern.Independent := by
    rw [map_judgedAlong concern_judge]
    exact pairwise_concern_defaults env troubleshootingUrl
  exact prepareAll_perm files hindependent hperm job

end Builtin

end ImageFlow
