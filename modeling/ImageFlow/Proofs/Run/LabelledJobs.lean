import ImageFlow.Proofs.Hook.LabelPrecedence
import ImageFlow.Proofs.Run.Fallback

/-!
# Every job is labelled

The chain that every run gets labels with the environment of its runner, which always names the
execution.  The labelling is the same in every attempt, and whatever follows it in the chain leaves
labels as they are.  So everything that the engine is asked to create can be traced to the tool and
to the execution.
-/

namespace ImageFlow

open ResourceLabels

variable {η ω : Type}

theorem freshExecutionId_ne_empty (random : Nat) : freshExecutionId random ≠ "" := by
  intro h
  have hlength := congrArg String.length h
  simp [freshExecutionId, executionIdDigits] at hlength

/-- An environment always names an execution once a runner has it. -/
theorem Environment.executionId_withExecutionId_ne_empty (env : Environment) (random : Nat) :
    (env.withExecutionId random).executionId ≠ "" := by
  rw [withExecutionId]
  split
  · exact freshExecutionId_ne_empty random
  · next hnamed =>
      intro hempty
      exact hnamed (String.isEmpty_iff.mpr hempty)

namespace Runner

/-- If the hooks of a runner label last with an environment that names an execution, every job that
the engine is handed is labelled. -/
theorem labelled_of_labelsLast
    (site : Site ω) (files : FileNode) (runner : Runner Builtin) (vars : Variables)
    (names : List String) (world : ω) {env : Environment} (hid : env.executionId ≠ "")
    (hlast : Builtin.LabelsLast env runner.hooks) :
    ∀ job ∈ (runner.run site (Builtin.kind files) vars names world).calls.filterMap RunCall.job?,
      ∀ work ∈ job.workflow.works, work.Labelled env := by
  intro job hjob work hwork
  have hconsecutive := runner.consecutive_trials site (Builtin.kind files) vars world
  rw [jobs_run] at hjob
  obtain ⟨trial, htrial, rfl⟩ := List.mem_map.mp hjob
  have hjudged (hooks : List Builtin) (error : Option WorkflowError)
      (h : Builtin.LabelsLast env hooks) :
      Builtin.LabelsLast env (judged (Builtin.kind files) hooks error) :=
    Builtin.labelsLast_judged files env h error
  have htrialLast : Builtin.LabelsLast env trial.hooks :=
    hconsecutive.of_judged hjudged hlast trial htrial
  exact Builtin.labelled_of_mem_leftBy files env hid htrialLast _ hwork

/-- The labels of the tool win, then those of the user, then those of the template.  Labelling never
fails; it gives every instance, disk and image, at every depth, the label that wins under each key,
and changes nothing else.  An image is marked as temporary only by the user or by the template.  A
runner with the chain that every run gets names an execution, so that chain, in whatever state it is
after some attempts, leaves every resource with the mark of the tool and the id of the execution;
and if none of the further built-in hooks labels, the engine is handed no other jobs in any run. -/
theorem tool_labels_win :
    (∀ (files : FileNode) (env : Environment) (job : Job),
      let prepared := ((Builtin.labels env).prepare files job).value
      prepared.failure = none ∧ job.Within (.precedence env) prepared.job) ∧
    (∀ (env : Environment) (i j : Image), (Allowance.precedence env).images i j →
      let key := env.tool.resourceLabelName ++ "-tmp"
      j.labels.get? key = (env.labels.get? key).or (i.labels.get? key)) ∧
    (∀ (files : FileNode) (env : Environment) (random : Nat) (ofBuiltin : Builtin → η)
      (troubleshootingUrl : String) (limit : Nat) (extra : List η),
      let runner := withDefaults env random ofBuiltin troubleshootingUrl limit extra
      let chain := Builtin.defaults runner.env troubleshootingUrl
      runner.env.executionId ≠ "" ∧ runner.hooks = chain.map ofBuiltin ++ extra ∧
        ∀ (errors : List (Option WorkflowError)) (job : Job),
          let hooks := judgedAlong (Builtin.kind files) chain errors
          ∀ work ∈ (leftBy (Builtin.kind files) hooks job).workflow.works,
            work.Labelled runner.env) ∧
    ∀ (site : Site ω) (files : FileNode) (env : Environment) (random : Nat)
      (troubleshootingUrl : String) (limit : Nat) (extra : List Builtin) (vars : Variables)
      (names : List String) (world : ω), (∀ hook ∈ extra, hook.concern ≠ .labels) →
      let runner := withDefaults env random id troubleshootingUrl limit extra
      let outcome := runner.run site (Builtin.kind files) vars names world
      ∀ job ∈ outcome.calls.filterMap RunCall.job?, ∀ work ∈ job.workflow.works,
        work.Labelled runner.env := by
  refine ⟨?_, ?_, ?_, ?_⟩
  · intro files env job prepared
    exact ⟨rfl, Job.within_mapWork (within_precedence_labelWork env) job⟩
  · intro env i j h
    exact get?_temporaryKey_of_precedence env h
  · intro files env random ofBuiltin troubleshootingUrl limit extra runner chain
    have hid : runner.env.executionId ≠ "" := env.executionId_withExecutionId_ne_empty random
    refine ⟨hid, rfl, ?_⟩
    intro errors job hooks work hwork
    have hchain : Builtin.LabelsLast runner.env chain := by
      have hnone : ∀ hook ∈ ([] : List Builtin), hook.concern ≠ .labels := nofun
      simpa using Builtin.labelsLast_defaults_append runner.env troubleshootingUrl hnone
    have hlast : Builtin.LabelsLast runner.env hooks :=
      Builtin.labelsLast_judgedAlong files runner.env hchain errors
    exact Builtin.labelled_of_mem_leftBy files runner.env hid hlast job hwork
  · intro site files env random troubleshootingUrl limit extra vars names world hextra runner
      outcome
    have hid : runner.env.executionId ≠ "" := env.executionId_withExecutionId_ne_empty random
    have hlast : Builtin.LabelsLast runner.env runner.hooks := by
      have hhooks : runner.hooks = Builtin.defaults runner.env troubleshootingUrl ++ extra := by
        simp [runner, withDefaults]
      rw [hhooks]
      exact Builtin.labelsLast_defaults_append runner.env troubleshootingUrl hextra
    exact runner.labelled_of_labelsLast site files vars names world hid hlast

/-- A workflow with a worker that denies being temporary, and an image in a workflow below. -/
def deniedWorker : Workflow where
  steps :=
    [("create",
      { work := { instances := some { beta :=
          [{ name := "worker", labels := .ofList [("wfrunner-tmp", "false")] }] } }
        subWorkflow := some { workflow := some { steps :=
          [("image", { work := { images := some [{ name := "result" }] } })] } } })]

/-- The engine is handed a labelled job, although the user and the template deny the labels. -/
theorem tool_labels_win_over_denials :
    let site := Site.scripted deniedWorker
    let env : Environment := { labels := .ofList [("wfrunner-build-id", "none")] }
    let runner := withDefaults env 0 id "" 3 [.releaseCheck "debian-9" none]
    let outcome := runner.run site (Builtin.kind default) ∅ [] []
    ∃ job, outcome.calls.filterMap RunCall.job? = [job] ∧ job.workflow.works.length = 2 ∧
      ∀ work ∈ job.workflow.works, work.Labelled runner.env := by
  intro site env runner outcome
  obtain ⟨job, hjobs, hworks⟩ : ∃ job, outcome.calls.filterMap RunCall.job? = [job] ∧
      job.workflow.works.length = 2 := ⟨_, rfl, rfl⟩
  have hextra : ∀ hook ∈ [Builtin.releaseCheck "debian-9" none], hook.concern ≠ .labels := by
    simp [Builtin.concern]
  have hlabelled := (tool_labels_win (η := Builtin)).2.2.2 site default env 0 "" 3 _ ∅ [] [] hextra
  refine ⟨job, hjobs, hworks, hlabelled job ?_⟩
  rw [show (outcome.calls.filterMap RunCall.job?) = [job] from hjobs]
  exact List.mem_singleton_self job

end Runner

end ImageFlow
