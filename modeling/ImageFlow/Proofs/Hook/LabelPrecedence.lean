import ImageFlow.Proofs.Data.OrderedMap
import ImageFlow.Proofs.Hook.Commutation
import ImageFlow.Proofs.Hook.Frame

/-!
# Which label wins

A label of a resource can come from the tool, from the user and from the template, in this order.
`ResourceLabels.winner` is the value of every label of a resource that was labelled, and
`Allowance.precedence` says of all resources at once that they are labelled in this way and
otherwise stay as they are.

No hook but the labelling changes labels, so the labels of a resource are the same as if the
labelling came last in its chain (`Builtin.leftBy_labels`).
-/

namespace ImageFlow

namespace ResourceLabels

/-! ## The labels of one resource -/

section Keys

variable (env : Environment)

theorem buildKey_ne_temporaryKey :
    env.tool.resourceLabelName ++ "-build-id" ≠ env.tool.resourceLabelName ++ "-tmp" := by
  intro h
  have hsuffixes : "-build-id".toList = "-tmp".toList := by
    have hlists := congrArg String.toList h
    rw [String.toList_append, String.toList_append] at hlists
    exact List.append_cancel_left hlists
  exact absurd hsuffixes (by decide)

theorem imageKey_ne_append {suffix : String} (hsuffix : suffix ≠ "") :
    env.tool.resourceLabelName ≠ env.tool.resourceLabelName ++ suffix := by
  intro h
  have hlists := congrArg String.toList h
  rw [String.toList_append, List.self_eq_append_right] at hlists
  exact hsuffix (String.toList_eq_nil_iff.mp hlists)

theorem imageKey_ne_buildKey :
    env.tool.resourceLabelName ≠ env.tool.resourceLabelName ++ "-build-id" :=
  imageKey_ne_append env (by decide)

theorem imageKey_ne_temporaryKey :
    env.tool.resourceLabelName ≠ env.tool.resourceLabelName ++ "-tmp" :=
  imageKey_ne_append env (by decide)

end Keys

/-- The value of a label on a resource that is marked with `toolKey`, where the template has given
it the labels `own`. -/
def winner (env : Environment) (toolKey : String) (own : OrderedMap String) (key : String) :
    Option String :=
  if key = toolKey then some "true"
  else if key = env.tool.resourceLabelName ++ "-build-id" ∧ env.executionId ≠ "" then
    some (Text.lower env.executionId)
  else (env.labels.get? key).or (own.get? key)

/-- The labels have the mark of the tool, and the lower-cased id of the execution. -/
structure Carries (env : Environment) (toolKey : String) (labels : OrderedMap String) : Prop where
  marked : labels.get? toolKey = some "true"
  traced :
    labels.get? (env.tool.resourceLabelName ++ "-build-id") = some (Text.lower env.executionId)

section Winner

variable {env : Environment} {toolKey : String}
  (hkeys : env.tool.resourceLabelName ++ "-build-id" ≠ toolKey)

include hkeys

theorem get?_labels (key : String) :
    (labels env toolKey).get? key =
      if key = toolKey then some "true"
      else if key = env.tool.resourceLabelName ++ "-build-id" ∧ env.executionId ≠ "" then
        some (Text.lower env.executionId)
      else env.labels.get? key := by
  rw [labels]
  by_cases hid : env.executionId = ""
  · rw [if_pos (String.isEmpty_iff.mpr hid), OrderedMap.get?_insert]
    simp [hid]
  · have hnamed : ¬env.executionId.isEmpty = true := fun h => hid (String.isEmpty_iff.mp h)
    rw [if_neg hnamed, OrderedMap.get?_insert, OrderedMap.get?_insert, buildKey]
    by_cases hbuild : key = env.tool.resourceLabelName ++ "-build-id"
    · subst hbuild
      simp [hkeys, hid]
    · simp [hbuild]

theorem get?_labels_overlay (own : OrderedMap String) (key : String) :
    ((labels env toolKey).overlay own).get? key = winner env toolKey own key := by
  rw [OrderedMap.get?_overlay, get?_labels hkeys, winner]
  split
  · rfl
  · split
    · rfl
    · rfl

theorem carries_labels_overlay (hid : env.executionId ≠ "") (own : OrderedMap String) :
    Carries env toolKey ((labels env toolKey).overlay own) where
  marked := by
    rw [get?_labels_overlay hkeys, winner, if_pos rfl]
  traced := by
    rw [get?_labels_overlay hkeys, winner, if_neg hkeys, if_pos ⟨rfl, hid⟩]

end Winner

end ResourceLabels

open ResourceLabels

/-! ## All resources -/

/-- Resources are labelled by the environment and otherwise stay as they are. -/
def Allowance.precedence (env : Environment) : Allowance where
  instances i j :=
    { j with labels := i.labels } = i ∧
      ∀ key, j.labels.get? key =
        winner env (env.tool.resourceLabelName ++ "-tmp") i.labels key
  disks d e :=
    { e with labels := d.labels } = d ∧
      ∀ key, e.labels.get? key =
        winner env (env.tool.resourceLabelName ++ "-tmp") d.labels key
  images i j :=
    { j with labels := i.labels } = i ∧
      ∀ key, j.labels.get? key = winner env env.tool.resourceLabelName i.labels key

/-- The resources of a step carry the labels of the tool. -/
def StepWork.Labelled (env : Environment) : StepWork → Prop :=
  StepWork.Each
    (fun i => Carries env (env.tool.resourceLabelName ++ "-tmp") i.labels)
    (fun d => Carries env (env.tool.resourceLabelName ++ "-tmp") d.labels)
    (fun i => Carries env env.tool.resourceLabelName i.labels)

namespace ResourceLabels

variable (env : Environment)

theorem within_precedence_labelWork (work : StepWork) :
    work.Within (.precedence env) (labelWork env work) := by
  have htemporary (own : OrderedMap String) (key : String) :=
    get?_labels_overlay (buildKey_ne_temporaryKey env) own key
  have hinstance (i : Instance) :
      (Allowance.precedence env).instances i (labelInstance env i) := ⟨rfl, htemporary i.labels⟩
  have hdisk (disk : Disk) :
      (Allowance.precedence env).disks disk (labelDisk env disk) := ⟨rfl, htemporary disk.labels⟩
  have himage (image : Image) :
      (Allowance.precedence env).images image (labelImage env image) :=
    ⟨rfl, get?_labels_overlay (imageKey_ne_buildKey env).symm image.labels⟩
  exact StepWork.within_of_map hinstance hdisk himage work

theorem labelled_labelWork (hid : env.executionId ≠ "") (work : StepWork) :
    (labelWork env work).Labelled env := by
  have htemporary (own : OrderedMap String) :=
    carries_labels_overlay (buildKey_ne_temporaryKey env) hid own
  have himage (own : OrderedMap String) :=
    carries_labels_overlay (imageKey_ne_buildKey env).symm hid own
  exact StepWork.each_of_map (fun i => htemporary i.labels) (fun d => htemporary d.labels)
    (fun i => himage i.labels) work

theorem labelled_of_mem_works
    (hid : env.executionId ≠ "") {workflow : Workflow} {work : StepWork}
    (hwork : work ∈ (apply env workflow).works) : work.Labelled env := by
  rw [apply, Workflow.works_mapWork] at hwork
  obtain ⟨before, -, rfl⟩ := List.mem_map.mp hwork
  exact labelled_labelWork env hid before

/-- An image is marked as temporary only by the user or by the template. -/
theorem get?_temporaryKey_of_precedence
    {i j : Image} (h : (Allowance.precedence env).images i j) :
    let key := env.tool.resourceLabelName ++ "-tmp"
    j.labels.get? key = (env.labels.get? key).or (i.labels.get? key) := by
  intro key
  have hbuild : ¬(key = env.tool.resourceLabelName ++ "-build-id" ∧ env.executionId ≠ "") :=
    fun hkey => buildKey_ne_temporaryKey env hkey.1.symm
  rw [h.2, winner, if_neg (imageKey_ne_temporaryKey env).symm, if_neg hbuild]

end ResourceLabels

/-! ## Chains -/

namespace Builtin

variable (files : FileNode) (env : Environment)

/-- The labelling may as well come last: no other hook changes labels. -/
theorem leftBy_labels {back : List Builtin} (hback : ∀ hook ∈ back, hook.concern ≠ .labels)
    (job : Job) :
    leftBy (kind files) (labels env :: back) job =
      ((labels env).prepare files (leftBy (kind files) back job)).value.job := by
  induction back generalizing job with
  | nil => rfl
  | cons hook rest ih =>
      obtain ⟨hhook, hrest⟩ := List.forall_mem_cons.mp hback
      have hindependent : (labels env).concern.Independent hook.concern := by
        refine ⟨hhook.symm, ?_, ?_⟩
        · rintro ⟨⟩
        · rintro ⟨⟩
      have hswap := (commute_of_independent files hindependent).job_eq job
      have hfirst : leftBy (kind files) (labels env :: hook :: rest) job =
          leftBy (kind files) rest
            (hook.prepare files ((labels env).prepare files job).value.job).value.job := rfl
      rw [hfirst, hswap]
      exact ih hrest (hook.prepare files job).value.job

/-- The hooks label with this environment, and none behind the labelling changes labels. -/
def LabelsLast (hooks : List Builtin) : Prop :=
  ∃ front back, hooks = front ++ labels env :: back ∧ ∀ hook ∈ back, hook.concern ≠ .labels

theorem labelsLast_judged
    {hooks : List Builtin} (h : LabelsLast env hooks) (error : Option WorkflowError) :
    LabelsLast env (judged (kind files) hooks error) := by
  obtain ⟨front, back, rfl, hback⟩ := h
  rw [judged_append]
  refine ⟨_, judged (kind files) back (handedOn (kind files) front error), rfl, ?_⟩
  intro hook hhook
  have hkept : (judged (kind files) back (handedOn (kind files) front error)).map concern =
      back.map concern :=
    map_judged concern_judge back _
  have hconcern : hook.concern ∈ back.map concern := hkept ▸ List.mem_map_of_mem hhook
  obtain ⟨before, hbefore, heq⟩ := List.mem_map.mp hconcern
  rw [← heq]
  exact hback before hbefore

theorem labelsLast_judgedAlong
    {hooks : List Builtin} (h : LabelsLast env hooks) (errors : List (Option WorkflowError)) :
    LabelsLast env (judgedAlong (kind files) hooks errors) := by
  induction errors generalizing hooks with
  | nil => exact h
  | cons error rest ih => exact ih (labelsLast_judged files env h error)

theorem labelsLast_defaults_append
    (troubleshootingUrl : String) {extra : List Builtin}
    (hextra : ∀ hook ∈ extra, hook.concern ≠ .labels) :
    LabelsLast env (defaults env troubleshootingUrl ++ extra) := by
  refine ⟨[environment env], network env.network env.subnet ::
    (seriesOf env troubleshootingUrl ++ trailing env ++ extra), ?_, ?_⟩
  · simp [defaults_eq, leading]
  · intro hook hhook
    simp only [List.mem_cons, List.mem_append] at hhook
    rcases hhook with rfl | (hseries | htrailing) | hlast
    · simp [concern]
    · rw [seriesOf] at hseries
      split at hseries
      · cases hseries
      · rw [List.mem_singleton.mp hseries]
        simp [concern]
    · rw [trailing] at htrailing
      split at htrailing
      · rw [List.mem_singleton.mp htrailing]
        simp [concern]
      · cases htrailing
    · exact hextra hook hlast

/-- Hooks that label leave every resource labelled, at every depth. -/
theorem labelled_of_mem_leftBy
    (hid : env.executionId ≠ "") {hooks : List Builtin} (h : LabelsLast env hooks) (job : Job)
    {work : StepWork} (hwork : work ∈ (leftBy (kind files) hooks job).workflow.works) :
    work.Labelled env := by
  obtain ⟨front, back, rfl, hback⟩ := h
  have hsplit : leftBy (kind files) (front ++ labels env :: back) job =
      leftBy (kind files) (labels env :: back) (leftBy (kind files) front job) :=
    List.foldl_append
  rw [hsplit, leftBy_labels files env hback] at hwork
  exact labelled_of_mem_works env hid hwork

end Builtin

end ImageFlow
