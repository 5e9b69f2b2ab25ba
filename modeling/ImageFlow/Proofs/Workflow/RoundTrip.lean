import ImageFlow.Proofs.Json.Depth
import ImageFlow.Proofs.Workflow.ResourceForms

/-!
# Workflow documents survive decoding and encoding

Workflows, steps and nested workflows are read with fuel, and the fuel that a document gets from its
height is always enough: more makes no difference (`Workflow.decodeWithin_agree`).  So reading with
any fuel being faithful, by induction on the fuel, carries over to reading as such.
-/

namespace ImageFlow

open Decoder (FieldForm Describes KeepsOther Faithful AgreeBelow RecordField)

/-! ## Values that stay as they are -/

theorem faithful_values : Faithful (Decoder.map Decoder.json) Json.ofMap (· = ·) := by
  have hencode : (fun m : OrderedMap Json => Json.object (m.entries.map fun e => (e.1, e.2))) =
      Json.ofMap := by
    funext m
    simp [Json.ofMap]
  exact hencode ▸ Faithful.json.map.mono fun _ _ => Json.EachMember.eq

def Json.ofDependencies (dependencies : OrderedMap (List String)) : Json :=
  .object (dependencies.entries.map fun (key, names) => (key, Json.ofTexts names))

theorem faithful_dependencies :
    Faithful (Decoder.map (Decoder.list Decoder.text)) Json.ofDependencies (· = ·) :=
  faithful_texts.map.mono fun _ _ => Json.EachMember.eq

/-! ## Records around workflows -/

section Nested

variable {workflow : Decoder Workflow} {Kept : Json → Json → Prop}

namespace NestedWorkflow

/-- Writes a nested workflow. -/
def encode (nested : NestedWorkflow) : Json :=
  Json.ofPairs <|
    [("Path", .text nested.path), ("Vars", Json.ofMap nested.vars)]
      ++ Json.memberIfSome "Workflow" Workflow.encode nested.workflow

theorem encode?_eq (key : String) (nested : Option NestedWorkflow) :
    encode? key nested = Json.memberIfSome key encode nested := by
  match nested with
  | none => simp [encode?, Json.memberIfSome]
  | some ⟨path, vars, none⟩ => simp [encode?, encode, Json.memberIfSome]
  | some ⟨path, vars, some workflow⟩ => simp [encode?, encode, Json.memberIfSome]

def forms (workflow : Decoder Workflow) : List (FieldForm NestedWorkflow) :=
  [ .always "Path" Decoder.text .text (·.path) fun v n => { n with path := v }
  , .always "Vars" (Decoder.map Decoder.json) Json.ofMap (·.vars) fun v n => { n with vars := v }
  , .optional "Workflow" workflow Workflow.encode (·.workflow)
      fun v n => { n with workflow := v } ]

theorem describes (hworkflow : Faithful workflow Workflow.encode Kept)
    (hnull : ∀ w, workflow .null ≠ .ok w) :
    Describes (forms workflow) {} (fun _ => ∅) encode (rules Kept) where
  independent := ⟨by simp [forms], by simp [forms, FieldForm.apart_iff]⟩
  ext := by
    rintro ⟨⟩ ⟨⟩ h _
    simpa [forms] using h
  object _ := ⟨_, rfl⟩
  declared := by simp [forms, encode]
  undeclared := by
    intro nested name h
    simp [forms] at h
    simp [encode, h]
  faithful :=
    .cons ⟨rfl, FieldForm.faithful_always .text rfl⟩ <|
    .cons ⟨rfl, FieldForm.faithful_always faithful_values rfl⟩ <|
    .cons ⟨rfl, FieldForm.faithful_optional hworkflow hnull rfl⟩ .nil

theorem faithful (hworkflow : Faithful workflow Workflow.encode Kept)
    (hnull : ∀ w, workflow .null ≠ .ok w) :
    Faithful (decode workflow) encode (Json.KeptRecord (rules Kept)) :=
  .record (describes hworkflow hnull)

end NestedWorkflow

namespace Step

def forms (workflow : Decoder Workflow) : List (FieldForm Step) :=
  [ .optional "CreateInstances" InstanceGroup.decode InstanceGroup.encode (·.work.instances)
      fun v s => { s with work := { s.work with instances := v } }
  , .optional "CreateDisks" (Decoder.list Disk.decode)
      (fun disks => .array (disks.map Disk.encode)) (·.work.disks)
      fun v s => { s with work := { s.work with disks := v } }
  , .optional "CreateImages" (Decoder.list Image.decode)
      (fun images => .array (images.map Image.encode)) (·.work.images)
      fun v s => { s with work := { s.work with images := v } }
  , .optional "IncludeWorkflow" (NestedWorkflow.decode workflow) NestedWorkflow.encode
      (·.includeWorkflow) fun v s => { s with includeWorkflow := v }
  , .optional "SubWorkflow" (NestedWorkflow.decode workflow) NestedWorkflow.encode
      (·.subWorkflow) fun v s => { s with subWorkflow := v } ]

theorem encode_eq (step : Step) :
    step.encode = Json.ofPairs
      (step.work.encode ++ Json.memberIfSome "IncludeWorkflow" NestedWorkflow.encode
        step.includeWorkflow ++ Json.memberIfSome "SubWorkflow" NestedWorkflow.encode
        step.subWorkflow) := by
  obtain ⟨work, included, sub⟩ := step
  simp only [encode, NestedWorkflow.encode?_eq]

theorem describes (hworkflow : Faithful workflow Workflow.encode Kept)
    (hnull : ∀ w, workflow .null ≠ .ok w) :
    Describes (forms workflow) {} (·.work.other) encode (rules Kept) where
  independent := ⟨by simp [forms], by simp [forms, FieldForm.apart_iff]⟩
  ext := by
    rintro ⟨⟨⟩, _, _⟩ ⟨⟨⟩, _, _⟩ h (rfl : _ = _)
    simpa [forms, and_assoc] using h
  object step := ⟨_, encode_eq step⟩
  declared := by
    intro step hclear
    simp [forms] at hclear
    simp [forms, encode_eq, StepWork.encode, hclear]
  undeclared := by
    intro step name h
    simp [forms] at h
    simp [encode_eq, StepWork.encode, h]
  faithful :=
    .cons ⟨rfl, FieldForm.faithful_optional InstanceGroup.faithful nofun rfl⟩ <|
    .cons ⟨rfl, FieldForm.faithful_optional Disk.faithful.list nofun rfl⟩ <|
    .cons ⟨rfl, FieldForm.faithful_optional Image.faithful.list nofun rfl⟩ <|
    .cons ⟨rfl, FieldForm.faithful_optional (NestedWorkflow.faithful hworkflow hnull) nofun rfl⟩ <|
    .cons ⟨rfl, FieldForm.faithful_optional (NestedWorkflow.faithful hworkflow hnull) nofun rfl⟩
      .nil

theorem keepsOther : KeepsOther (forms workflow) keep (·.work.other) where
  get_keep := by simp [forms, keep]
  rest_keep _ _ _ := rfl
  rest_put := by simp [forms]

theorem faithful (hworkflow : Faithful workflow Workflow.encode Kept)
    (hnull : ∀ w, workflow .null ≠ .ok w) :
    Faithful (decode workflow) encode (Json.KeptOpenRecord (rules Kept)) :=
  .openRecord (describes hworkflow hnull) keepsOther rfl

theorem encodeAll_eq_map (steps : List (String × Step)) :
    encodeAll steps = steps.map fun entry => (entry.1, entry.2.encode) := by
  induction steps with
  | nil => simp [encodeAll]
  | cons entry rest ih => simp [encodeAll, ih]

end Step

namespace Workflow

def forms (nested : Decoder Workflow) : List (FieldForm Workflow) :=
  [ .always "Name" Decoder.text .text (·.name) fun v w => { w with name := v }
  , .always "Project" Decoder.text .text (·.project) fun v w => { w with project := v }
  , .always "Zone" Decoder.text .text (·.zone) fun v w => { w with zone := v }
  , .always "GCSPath" Decoder.text .text (·.gcsPath) fun v w => { w with gcsPath := v }
  , .always "OAuthPath" Decoder.text .text (·.oauthPath) fun v w => { w with oauthPath := v }
  , .always "DefaultTimeout" Decoder.text .text (·.defaultTimeout)
      fun v w => { w with defaultTimeout := v }
  , .always "Vars" (Decoder.map Decoder.json) Json.ofMap (·.vars) fun v w => { w with vars := v }
  , .always "Steps" (fun d => (·.entries) <$> Decoder.map (Step.decode nested) d)
      (fun steps => .object (Step.encodeAll steps)) (·.steps) fun v w => { w with steps := v }
  , .always "Dependencies" (Decoder.map (Decoder.list Decoder.text)) Json.ofDependencies
      (·.dependencies) fun v w => { w with dependencies := v } ]

theorem fields_eq (nested : Decoder Workflow) :
    fields nested = (forms nested).map FieldForm.toField := by
  simp only [fields, forms, FieldForm.toField, FieldForm.always, Decoder.field, List.map_cons,
    List.map_nil, Functor.map_map]

theorem encode_eq (w : Workflow) :
    w.encode = Json.ofPairs
      [ ("Name", .text w.name), ("Project", .text w.project), ("Zone", .text w.zone)
      , ("GCSPath", .text w.gcsPath), ("OAuthPath", .text w.oauthPath)
      , ("DefaultTimeout", .text w.defaultTimeout), ("Vars", Json.ofMap w.vars)
      , ("Steps", .object (Step.encodeAll w.steps))
      , ("Dependencies", Json.ofDependencies w.dependencies) ] := by
  obtain ⟨⟩ := w
  rw [encode]
  rfl

theorem faithful_steps (hworkflow : Faithful workflow encode Kept)
    (hnull : ∀ w, workflow .null ≠ .ok w) :
    Faithful (fun d => (·.entries) <$> Decoder.map (Step.decode workflow) d)
      (fun steps => .object (Step.encodeAll steps))
      (Json.EachMember (Json.KeptOpenRecord (Step.rules Kept))) :=
  (Step.faithful hworkflow hnull).map.map_value _ fun m =>
    congrArg Json.object (Step.encodeAll_eq_map m.entries)

theorem describes (hworkflow : Faithful workflow encode Kept)
    (hnull : ∀ w, workflow .null ≠ .ok w) :
    Describes (forms workflow) {} (fun _ => ∅) encode (rules Kept) where
  independent := ⟨by simp [forms], by simp [forms, FieldForm.apart_iff]⟩
  ext := by
    rintro ⟨⟩ ⟨⟩ h _
    simpa [forms] using h
  object w := ⟨_, encode_eq w⟩
  declared := by simp [forms, encode_eq]
  undeclared := by
    intro w name h
    simp [forms] at h
    simp [encode_eq, h]
  faithful :=
    .cons ⟨rfl, FieldForm.faithful_always .text rfl⟩ <|
    .cons ⟨rfl, FieldForm.faithful_always .text rfl⟩ <|
    .cons ⟨rfl, FieldForm.faithful_always .text rfl⟩ <|
    .cons ⟨rfl, FieldForm.faithful_always .text rfl⟩ <|
    .cons ⟨rfl, FieldForm.faithful_always .text rfl⟩ <|
    .cons ⟨rfl, FieldForm.faithful_always .text rfl⟩ <|
    .cons ⟨rfl, FieldForm.faithful_always faithful_values rfl⟩ <|
    .cons ⟨rfl, FieldForm.faithful_always (faithful_steps hworkflow hnull) rfl⟩ <|
    .cons ⟨rfl, FieldForm.faithful_always faithful_dependencies rfl⟩ .nil

theorem decodeWithin_null (fuel : Nat) (w : Workflow) : decodeWithin fuel .null ≠ .ok w := by
  cases fuel <;> nofun

/-- With any fuel, what is read is written and read again as the same. -/
theorem faithful_decodeWithin (fuel : Nat) :
    Faithful (decodeWithin fuel) encode (KeptWithin fuel) := by
  induction fuel with
  | zero => exact ⟨nofun, nofun, nofun⟩
  | succ fuel ih =>
    rw [decodeWithin, fields_eq]
    exact .record (describes ih (decodeWithin_null fuel))

end Workflow

end Nested

/-! ## Fuel -/

section Fuel

variable {bound : Nat} {first second : Decoder Workflow}

theorem NestedWorkflow.agreeBelow_decode (h : AgreeBelow bound first second) :
    AgreeBelow (bound + 1) (NestedWorkflow.decode first) (NestedWorkflow.decode second) := by
  refine Decoder.agreeBelow_record ?_ ({} : NestedWorkflow)
  exact
    .cons (.refl _ _) <| .cons (.refl _ _) <| .cons (h.optional.field _ _ _) .nil

theorem Step.agreeBelow_decode (h : AgreeBelow bound first second) :
    AgreeBelow (bound + 1) (Step.decode first) (Step.decode second) := by
  have hnested := ((NestedWorkflow.agreeBelow_decode h).mono (Nat.le_succ bound)).optional
  refine Decoder.agreeBelow_openRecord ?_ Step.keep ({} : Step)
  exact
    .cons (.refl _ _) <| .cons (.refl _ _) <| .cons (.refl _ _) <|
    .cons (hnested.field _ _ _) <| .cons (hnested.field _ _ _) .nil

theorem Workflow.fields_agreeBelow (h : AgreeBelow bound first second) :
    List.Forall₂ (RecordField.AgreeBelow bound) (Workflow.fields first)
      (Workflow.fields second) := by
  have hsteps := ((Step.agreeBelow_decode h).map.mono (Nat.le_add_right bound 2))
  exact
    .cons (.refl _ _) <| .cons (.refl _ _) <| .cons (.refl _ _) <| .cons (.refl _ _) <|
    .cons (.refl _ _) <| .cons (.refl _ _) <| .cons (.refl _ _) <|
    .cons (hsteps.field _ _ _) <| .cons (.refl _ _) .nil

/-- Documents that are less high than both fuels are read alike with both. -/
theorem Workflow.decodeWithin_agree {fuel fuel' : Nat} (hfuel : bound ≤ fuel)
    (hfuel' : bound ≤ fuel') : AgreeBelow bound (decodeWithin fuel) (decodeWithin fuel') := by
  induction bound generalizing fuel fuel' with
  | zero => exact fun d hd => absurd hd (Nat.not_lt_zero _)
  | succ bound ih =>
    obtain ⟨fuel, rfl⟩ := Nat.exists_eq_add_of_le' hfuel
    obtain ⟨fuel', rfl⟩ := Nat.exists_eq_add_of_le' hfuel'
    have hparts := ih (Nat.le_add_left bound fuel) (Nat.le_add_left bound fuel')
    exact Decoder.agreeBelow_record (fields_agreeBelow hparts) ({} : Workflow)

end Fuel

/-- More fuel than the height of a document makes no difference. -/
theorem Workflow.decodeWithin_eq_decode {fuel : Nat} {d : Document} (h : d.height < fuel) :
    decodeWithin fuel d = decode d :=
  decodeWithin_agree (Nat.succ_le_of_lt h) (Nat.le_refl _) d (Nat.lt_succ_self _)

namespace Workflow

/-- Workflows are read and written faithfully. -/
theorem faithful : Faithful decode encode Kept where
  decode_encode := by
    intro d w hd
    let fuel := max d.height (Document.ofJson w.encode).height + 1
    have hread : decodeWithin fuel d = .ok w :=
      (decodeWithin_eq_decode (Nat.lt_succ_of_le (Nat.le_max_left _ _))).trans hd
    rw [← decodeWithin_eq_decode (Nat.lt_succ_of_le (Nat.le_max_right _ _))]
    exact (faithful_decodeWithin fuel).decode_encode hread
  inOrder_encode hd := (faithful_decodeWithin _).inOrder_encode hd
  kept hv hd := ⟨_, (faithful_decodeWithin _).kept hv hd⟩

/-- Workflow documents survive decoding and encoding.  Whatever value a workflow was decoded from, it
is encoded as a value, in order, that is decoded as the same workflow, and so is encoded as itself
again.  If the objects of the value read are maps, the value written has kept of it all that a
workflow document keeps.  Clients and recorded values are no part of a document; a job starts
without them. -/
theorem survives_decode_encode (v : Json) (w : Workflow)
    (h : Decoder.ofValue decode v = .ok w) :
    Decoder.ofValue decode w.encode = .ok w ∧
      (Decoder.ofValue decode w.encode).map encode = .ok w.encode ∧
      w.encode.InOrder ∧ (v.InOrder → Kept v w.encode) := by
  have hagain : Decoder.ofValue decode w.encode = .ok w := faithful.decode_encode h
  refine ⟨hagain, ?_, faithful.inOrder_encode h, fun hv => faithful.kept hv h⟩
  rw [hagain]
  rfl

/-- A document with records given as arrays, parts that are left out or null, members that are no
fields, and a workflow nested in a step. -/
def nestedDocument : Json :=
  .object
    [ ("Name", .text "translate")
    , ("Steps", .object
        [ ("create", .object
            [ ("CreateDisks", .array
                [.object [("DiskEncryptionKey", .null), ("Name", .text "d"), ("SizeGb", .int 10)]])
            , ("CreateInstances", .array
                [ .array
                    [ .object
                        [ ("Disks", .array [.array [.text "d", .bool true]])
                        , ("Labels", .object [])
                        , ("StartupScript", .text "translate.sh") ] ] ])
            , ("Timeout", .text "60m") ])
        , ("export", .object
            [ ("IncludeWorkflow", .array
                [ .text "export.wf.json", .object [("size", .int 3)]
                , .object [("Steps", .object [("wait", .object [("Signal", .null)])])] ]) ]) ]) ]

/-- `nestedDocument` is decoded and survives. -/
theorem nestedDocument_survives :
    nestedDocument.InOrder ∧ ∃ w, Decoder.ofValue decode nestedDocument = .ok w ∧
      Decoder.ofValue decode w.encode = .ok w ∧
      (Decoder.ofValue decode w.encode).map encode = .ok w.encode ∧
      w.encode.InOrder ∧ Kept nestedDocument w.encode := by
  have horder : nestedDocument.InOrder := by decide +kernel
  have hok : (Decoder.ofValue decode nestedDocument).isOk = true := by decide +kernel
  cases hread : Decoder.ofValue decode nestedDocument with
  | error problem => simp [hread, Except.isOk, Except.toBool] at hok
  | ok w =>
    obtain ⟨hagain, hencode, hwritten, hkept⟩ := survives_decode_encode nestedDocument w hread
    exact ⟨horder, w, rfl, hagain, hencode, hwritten, hkept horder⟩

end Workflow

end ImageFlow
