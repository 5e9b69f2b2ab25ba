import ImageFlow.Proofs.Json.FaithfulField

/-!
# Faithful records

A record is read and written faithfully if each of its fields is, and if the fields, with the
members that an open record keeps beside them, say all there is about it (`Describes`).  What
reading leaves of a record (`WasRead`) is enough to write it in order and to read it again.
-/

namespace ImageFlow

/-- What a document gives for a field of a record, like `Json.part?`. -/
def Document.part? (place : Nat) (key : String) : Document → Option Document
  | .array items _ => items[place]?
  | .object members _ => Entries.get? key members
  | .passable wanted _ => part? place key wanted
  | _ => none

theorem Document.part?_ofJson (place : Nat) (key : String) (v : Json) :
    (ofJson v).part? place key = (v.part? place key).map ofJson := by
  cases v with
  | array items => simp [ofJson, part?, Json.part?, ofItems_eq_map]
  | object members => exact get?_ofMembers key members
  | _ => rfl

namespace Decoder

variable {ρ : Type} {forms : List (FieldForm ρ)} {f : FieldForm ρ} {initial r : ρ}

/-- Each field of a record is what its own part of the document says. -/
theorem record_read (hforms : Independent forms) {d : Document}
    (h : record (forms.map FieldForm.toField) initial d = .ok r) {place : Nat}
    (hf : forms[place]? = some f) : f.read initial (d.part? place f.key) = .ok (f.get r) := by
  induction d using Document.part?.induct with
  | case1 items stop =>
    obtain ⟨htook, habsent⟩ := takeItems_took hforms h hf
    refine htook.read fun hnone hrefused => ?_
    rw [habsent hnone] at hrefused
    cases hrefused
  | case2 members stop =>
    have hget : ∀ f ∈ forms, ∀ key d s s', ignore key d s = .ok s' → f.get s' = f.get s :=
      fun f _ _ _ _ _ hignore => congrArg f.get (eq_of_ignore hignore)
    exact takeObject_read hforms hget h (List.mem_of_getElem? hf)
  | case3 wanted passed ih => exact ih h
  | case4 d harray hobject hpassable => cases d <;> simp_all [record]

/-- Each field of an open record is what its own member says. -/
theorem openRecord_read (hforms : Independent forms) {keep : String → Json → ρ → ρ}
    {rest : ρ → OrderedMap Json} (hkeep : KeepsOther forms keep rest) {d : Document}
    (h : openRecord (forms.map FieldForm.toField) keep initial d = .ok r) (hf : f ∈ forms)
    (place : Nat) : f.read initial (d.part? place f.key) = .ok (f.get r) := by
  induction d using Document.part?.induct with
  | case2 members stop =>
    exact takeObject_read hforms (fun _ hf _ _ _ _ => get_of_keeping hkeep hf) h hf
  | case3 wanted passed ih => exact ih h
  | case1 items stop => cases h
  | case4 d harray hobject hpassable => cases d <;> simp_all [openRecord]

theorem exists_membersTaken_of_openRecord {keep : String → Json → ρ → ρ} {d : Document}
    (h : openRecord (forms.map FieldForm.toField) keep initial d = .ok r) :
    ∃ parts seen, MembersTaken forms (keeping keep) parts [] initial r seen := by
  induction d using Document.part?.induct with
  | case2 members stop =>
    obtain ⟨seen, htake, _, _⟩ := takeObject_eq_ok_iff.1 h
    exact ⟨members, seen, membersTaken_of_takeMembers htake⟩
  | case3 wanted passed ih => exact ih h
  | case1 items stop => cases h
  | case4 d harray hobject hpassable => cases d <;> simp_all [openRecord]

/-! ## Records -/

/-- The forms, with the members that are kept beside the fields, say all there is about a record:
what it is made of, what it is written as, and what each field keeps. -/
structure Describes (forms : List (FieldForm ρ)) (initial : ρ) (rest : ρ → OrderedMap Json)
    (encode : ρ → Json) (rules : List Json.FieldRule) : Prop where
  independent : Independent forms
  ext : ∀ r s, (∀ f ∈ forms, f.get r = f.get s) → rest r = rest s → r = s
  object : ∀ r, ∃ pairs, encode r = .ofPairs pairs
  declared : ∀ r, (∀ f ∈ forms, (rest r).get? f.key = none) →
    ∀ f ∈ forms, (encode r).member? f.key = f.write (f.get r)
  undeclared : ∀ r key, (∀ f ∈ forms, key ≠ f.key) →
    (encode r).member? key = (rest r).get? key
  faithful : List.Forall₂ (fun f rule => f.key = rule.key ∧ f.Faithful initial rule.Kept)
    forms rules

/-- A record as reading leaves it: each field is read from some part or is its default, and the
members beside the fields are in order and under other keys. -/
structure WasRead (forms : List (FieldForm ρ)) (initial : ρ) (rest : ρ → OrderedMap Json)
    (r : ρ) : Prop where
  read : ∀ f ∈ forms, ∃ part, f.read initial part = .ok (f.get r)
  rest_declared : ∀ f ∈ forms, (rest r).get? f.key = none
  rest_inOrder : ∀ key v, (rest r).get? key = some v → v.InOrder

theorem forall₂_of_getElem? {α β : Type*} {R : α → β → Prop} {as : List α} {bs : List β}
    (h : List.Forall₂ R as bs) {place : Nat} {b : β} (hb : bs[place]? = some b) :
    ∃ a, as[place]? = some a ∧ R a b := by
  induction h generalizing place with
  | nil => simp at hb
  | cons hab _ ih =>
    cases place with
    | zero => exact ⟨_, rfl, Option.some.inj hb ▸ hab⟩
    | succ place => exact ih hb

namespace Describes

variable {rest : ρ → OrderedMap Json} {encode : ρ → Json} {rules : List Json.FieldRule}

theorem keys_eq (h : Describes forms initial rest encode rules) :
    forms.map (·.key) = rules.map (·.key) := by
  rw [← List.forall₂_eq_eq_eq, List.forall₂_map_left_iff, List.forall₂_map_right_iff]
  exact h.faithful.imp fun _ _ hfield => hfield.1

theorem undeclared_iff (h : Describes forms initial rest encode rules) {key : String} :
    (∀ f ∈ forms, key ≠ f.key) ↔ ∀ rule ∈ rules, key ≠ rule.key := by
  have hkeys : key ∈ forms.map (·.key) ↔ key ∈ rules.map (·.key) := by rw [h.keys_eq]
  simpa [eq_comm] using not_congr hkeys

theorem exists_encode_eq (h : Describes forms initial rest encode rules) (r : ρ) :
    ∃ members, encode r = .object members ∧ Entries.Sorted members := by
  obtain ⟨pairs, hpairs⟩ := h.object r
  exact ⟨_, hpairs, (OrderedMap.ofList pairs).sorted⟩

/-- What was read is written in order. -/
theorem inOrder_encode (h : Describes forms initial rest encode rules)
    (hr : WasRead forms initial rest r) : (encode r).InOrder := by
  have hvalue : ∀ key v, (encode r).member? key = some v → v.InOrder := by
    intro key v hv
    by_cases hkey : ∃ f ∈ forms, key = f.key
    · obtain ⟨f, hf, rfl⟩ := hkey
      obtain ⟨rule, _, hfaithful⟩ := forall₂_right_exists h.faithful.flip f hf
      obtain ⟨part, hpart⟩ := hr.read f hf
      exact hfaithful.inOrder_write hpart v (h.declared r hr.rest_declared f hf ▸ hv)
    · have hfree : ∀ f ∈ forms, key ≠ f.key := fun f hf heq => hkey ⟨f, hf, heq⟩
      exact hr.rest_inOrder key v (h.undeclared r key hfree ▸ hv)
  obtain ⟨members, hencode, hsorted⟩ := h.exists_encode_eq r
  rw [hencode] at hvalue ⊢
  refine Json.inOrder_object_iff.2 ⟨hsorted, ?_⟩
  rintro ⟨key, v⟩ hmember
  exact hvalue key v (Entries.get?_eq_some_of_mem hsorted hmember)

/-- What is written is read again, field by field. -/
theorem exists_takeObject_encode (h : Describes forms initial rest encode rules)
    (hr : WasRead forms initial rest r) {other : String → Document → ρ → Except JsonProblem ρ}
    (hget : ∀ f ∈ forms, ∀ key d s s', other key d s = .ok s' → f.get s' = f.get s)
    (hother : ∀ key v, (rest r).get? key = some v → ∀ s, ∃ s', other key (.ofJson v) s = .ok s')
    {members : List (String × Json)} (hencode : encode r = .object members) :
    ∃ s seen, MembersTaken forms other (Document.ofMembers members) [] initial s seen ∧
      takeObject (forms.map FieldForm.toField) other initial (Document.ofMembers members) none =
        .ok s ∧ ∀ f ∈ forms, f.get s = f.get r := by
  have hlook : ∀ key, Entries.get? key members = (encode r).member? key := by
    intro key
    rw [hencode]
    rfl
  have hsorted := (Json.inOrder_object_iff.1 (hencode ▸ h.inOrder_encode hr)).1
  refine exists_takeObject h.independent hget ?_ ?_ ?_
  · rw [Document.ofMembers_eq_map]
    exact hsorted.map Document.ofJson
  · intro f hf
    obtain ⟨rule, _, hfaithful⟩ := forall₂_right_exists h.faithful.flip f hf
    obtain ⟨part, hpart⟩ := hr.read f hf
    rw [Document.get?_ofMembers, hlook, h.declared r hr.rest_declared f hf]
    exact hfaithful.read_write hpart
  · rw [Document.ofMembers_eq_map, List.forall_mem_map]
    rintro ⟨key, v⟩ hmember hkey
    refine hother key v ?_
    rw [← h.undeclared r key hkey, ← hlook]
    exact Entries.get?_eq_some_of_mem hsorted hmember

/-- Each field of what is written keeps of its part what it should. -/
theorem kept_declared (h : Describes forms initial rest encode rules)
    (hr : WasRead forms initial rest r) {v : Json} (hv : v.InOrder)
    (hread : ∀ (place : Nat) (f : FieldForm ρ), forms[place]? = some f →
      f.read initial ((v.part? place f.key).map .ofJson) = .ok (f.get r))
    {place : Nat} {rule : Json.FieldRule} (hrule : rules[place]? = some rule) :
    rule.Kept (v.part? place rule.key) ((encode r).member? rule.key) := by
  obtain ⟨f, hf, hkey, hfaithful⟩ := forall₂_of_getElem? h.faithful hrule
  rw [← hkey, h.declared r hr.rest_declared f (List.mem_of_getElem? hf)]
  refine hfaithful.kept (fun part hpart => ?_) (hread place f hf)
  exact Json.inOrder_of_part?_eq_some hv hpart

end Describes

section Records

variable {encode : ρ → Json} {rules : List Json.FieldRule}

theorem wasRead_of_record (hforms : Independent forms) {d : Document}
    (h : record (forms.map FieldForm.toField) initial d = .ok r) :
    WasRead forms initial (fun _ => ∅) r where
  read := by
    intro f hf
    obtain ⟨place, hplace⟩ := List.mem_iff_getElem?.1 hf
    exact ⟨_, record_read hforms h hplace⟩
  rest_declared _ _ := rfl
  rest_inOrder := nofun

/-- What a record is written as is read as that record again. -/
theorem record_encode (h : Describes forms initial (fun _ => ∅) encode rules) {d : Document}
    (hd : record (forms.map FieldForm.toField) initial d = .ok r) :
    record (forms.map FieldForm.toField) initial (.ofJson (encode r)) = .ok r := by
  have hget : ∀ f ∈ forms, ∀ key d s s', ignore key d s = .ok s' → f.get s' = f.get s :=
    fun f _ _ _ _ _ hignore => congrArg f.get (eq_of_ignore hignore)
  obtain ⟨members, hencode, _⟩ := h.exists_encode_eq r
  obtain ⟨s, _, _, htake, hsame⟩ :=
    h.exists_takeObject_encode (wasRead_of_record h.independent hd) hget nofun hencode
  rw [hencode, Document.ofJson]
  exact htake.trans (congrArg Except.ok (h.ext s r hsame rfl))

/-- Records are faithful if their fields are. -/
theorem Faithful.record (h : Describes forms initial (fun _ => ∅) encode rules) :
    Faithful (Decoder.record (forms.map FieldForm.toField) initial) encode
      (Json.KeptRecord rules) where
  decode_encode hd := record_encode h hd
  inOrder_encode hd := h.inOrder_encode (wasRead_of_record h.independent hd)
  kept := by
    intro v r hv hd
    obtain ⟨members, hencode, _⟩ := h.exists_encode_eq r
    refine ⟨⟨members, hencode⟩, ?_, ?_⟩
    · intro place rule hrule
      refine h.kept_declared (wasRead_of_record h.independent hd) hv (fun place f hf => ?_) hrule
      rw [← Document.part?_ofJson]
      exact record_read h.independent hd hf
    · intro key hkey
      exact h.undeclared r key (h.undeclared_iff.2 hkey)

end Records

section OpenRecords

variable {encode : ρ → Json} {rules : List Json.FieldRule}
variable {rest : ρ → OrderedMap Json} {keep : String → Json → ρ → ρ}

theorem wasRead_of_openRecord (hforms : Independent forms) (hkeep : KeepsOther forms keep rest)
    (hinitial : rest initial = ∅) {d : Document}
    (h : openRecord (forms.map FieldForm.toField) keep initial d = .ok r) :
    WasRead forms initial rest r := by
  obtain ⟨parts, seen, htaken⟩ := exists_membersTaken_of_openRecord h
  refine ⟨fun f hf => ⟨_, openRecord_read hforms hkeep h hf 0⟩, fun f hf => ?_, ?_⟩
  · rw [htaken.rest_get?_declared hkeep hf, hinitial, OrderedMap.get?_empty]
  · exact htaken.rest_inOrder hkeep (by simp [hinitial])

/-- The members kept from a value in order are its own, the fields apart. -/
theorem MembersTaken.rest_get?_undeclared {members : List (String × Json)} {seen : List String}
    (h : MembersTaken forms (keeping keep) (Document.ofMembers members) [] initial r seen)
    (hkeep : KeepsOther forms keep rest) (hinitial : rest initial = ∅)
    (hmembers : (Json.object members).InOrder) {key : String} (hkey : ∀ f ∈ forms, key ≠ f.key) :
    (rest r).get? key = (Json.object members).member? key := by
  obtain ⟨hsorted, horder⟩ := Json.inOrder_object_iff.1 hmembers
  rw [h.rest_get? hkeep hsorted.nodup_keys horder hkey, hinitial, OrderedMap.get?_empty,
    Option.or_none]
  rfl

/-- What an open record is written as is read as that record again. -/
theorem openRecord_encode (h : Describes forms initial rest encode rules)
    (hkeep : KeepsOther forms keep rest) (hinitial : rest initial = ∅) {d : Document}
    (hd : openRecord (forms.map FieldForm.toField) keep initial d = .ok r) :
    openRecord (forms.map FieldForm.toField) keep initial (.ofJson (encode r)) = .ok r := by
  have hr := wasRead_of_openRecord h.independent hkeep hinitial hd
  have hget : ∀ f ∈ forms, ∀ key d s s', keeping keep key d s = .ok s' → f.get s' = f.get s :=
    fun _ hf _ _ _ _ => get_of_keeping hkeep hf
  have hother : ∀ key v, (rest r).get? key = some v →
      ∀ s, ∃ s', keeping keep key (.ofJson v) s = .ok s' := fun key v hv s =>
    ⟨_, map_eq_ok_iff.2 ⟨v, Document.toJson_ofJson v (hr.rest_inOrder key v hv), rfl⟩⟩
  obtain ⟨members, hencode, _⟩ := h.exists_encode_eq r
  obtain ⟨s, _, htaken, htake, hsame⟩ :=
    h.exists_takeObject_encode hr hget hother hencode
  have horder : (Json.object members).InOrder := hencode ▸ h.inOrder_encode hr
  -- The members beside the fields come back too: look-ups decide, under the key of a field or not.
  have hsameRest : rest s = rest r := by
    refine OrderedMap.ext_get? fun key => ?_
    by_cases hkey : ∃ f ∈ forms, key = f.key
    · obtain ⟨f, hf, rfl⟩ := hkey
      rw [htaken.rest_get?_declared hkeep hf, hinitial, hr.rest_declared f hf,
        OrderedMap.get?_empty]
    · have hfree : ∀ f ∈ forms, key ≠ f.key := fun f hf heq => hkey ⟨f, hf, heq⟩
      rw [htaken.rest_get?_undeclared hkeep hinitial horder hfree, ← hencode,
        h.undeclared r key hfree]
  rw [hencode, Document.ofJson]
  exact htake.trans (congrArg Except.ok (h.ext s r hsame hsameRest))

/-- Open records are faithful if their fields are, and have the same other members. -/
theorem Faithful.openRecord (h : Describes forms initial rest encode rules)
    (hkeep : KeepsOther forms keep rest) (hinitial : rest initial = ∅) :
    Faithful (Decoder.openRecord (forms.map FieldForm.toField) keep initial) encode
      (Json.KeptOpenRecord rules) where
  decode_encode hd := openRecord_encode h hkeep hinitial hd
  inOrder_encode hd := h.inOrder_encode (wasRead_of_openRecord h.independent hkeep hinitial hd)
  kept := by
    intro v r hv hd
    cases v with
    | object members =>
      have hr := wasRead_of_openRecord h.independent hkeep hinitial hd
      obtain ⟨written, hencode, _⟩ := h.exists_encode_eq r
      refine ⟨⟨members, rfl⟩, ⟨written, hencode⟩, ?_, ?_⟩
      · intro rule hrule
        obtain ⟨place, hplace⟩ := List.mem_iff_getElem?.1 hrule
        refine h.kept_declared hr hv (fun place f hf => ?_) hplace
        rw [← Document.part?_ofJson]
        exact openRecord_read h.independent hkeep hd (List.mem_of_getElem? hf) place
      · intro key hkey
        have hfree := h.undeclared_iff.2 hkey
        obtain ⟨seen, htake, _, _⟩ := takeObject_eq_ok_iff.1 hd
        have htaken := membersTaken_of_takeMembers htake
        rw [h.undeclared r key hfree, htaken.rest_get?_undeclared hkeep hinitial hv hfree]
    | _ => cases hd

end OpenRecords

end Decoder

end ImageFlow
