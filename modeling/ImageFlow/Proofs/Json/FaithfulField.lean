import ImageFlow.Proofs.Json.Record

/-!
# Faithful fields

A field is faithful if what it was read as is written as a member, or left out, and read from that
as the same again.  This covers what was read from a part of the document and the default that
stands for a missing one at once, by `FieldForm.read`.  There are four kinds: fields that are always
written, fields that must be there, fields that are left out when there is nothing, and fields that
are left out when they are empty.
-/

namespace ImageFlow

namespace Decoder

variable {ρ : Type} {initial : ρ}

/-- A field that was read is written, or left out, such that it is read as the same again; and of
the part that was read it keeps what `Kept` says. -/
structure FieldForm.Faithful (f : FieldForm ρ) (initial : ρ)
    (Kept : Option Json → Option Json → Prop) : Prop where
  read_write : ∀ {part : Option Document} {a : f.Value}, f.read initial part = .ok a →
    f.read initial ((f.write a).map .ofJson) = .ok a
  inOrder_write : ∀ {part : Option Document} {a : f.Value}, f.read initial part = .ok a →
    ∀ v ∈ f.write a, v.InOrder
  kept : ∀ {part : Option Json} {a : f.Value}, (∀ v ∈ part, v.InOrder) →
    f.read initial (part.map .ofJson) = .ok a → Kept part (f.write a)

namespace FieldForm

variable {α : Type} {inner : Decoder α} {encode : α → Json} {Kept : Json → Json → Prop}
variable {key : String}

/-! ## Kinds of fields -/

/-- A field that is always written. -/
@[simp]
def always (key : String) (inner : Decoder α) (encode : α → Json) (get : ρ → α)
    (put : α → ρ → ρ) : FieldForm ρ :=
  { key, inner, get, put, write := fun a => some (encode a) }

/-- A field that must be written. -/
@[simp]
def required (key : String) (inner : Decoder α) (encode : α → Json) (get : ρ → α)
    (put : α → ρ → ρ) : FieldForm ρ :=
  { key, inner, absence := .refused, get, put, write := fun a => some (encode a) }

/-- A field that is left out when there is nothing. -/
@[simp]
def optional (key : String) (inner : Decoder α) (encode : α → Json) (get : ρ → Option α)
    (put : Option α → ρ → ρ) : FieldForm ρ :=
  { key, inner := Decoder.optional inner, get, put, write := Option.map encode }

/-- A field that is left out when it is empty. -/
@[simp]
def unlessEmpty (key : String) (inner : Decoder α) (encode : α → Json) (isEmpty : α → Bool)
    (get : ρ → α) (put : α → ρ → ρ) : FieldForm ρ :=
  { key, inner, get, put, write := fun a => if isEmpty a then none else some (encode a) }

theorem faithful_always {get : ρ → α} {put : α → ρ → ρ}
    (h : Decoder.Faithful inner encode Kept)
    (hdefault : inner (.ofJson (encode (get initial))) = .ok (get initial)) :
    (always key inner encode get put).Faithful initial
      (Json.Always (encode (get initial)) Kept) where
  read_write := by
    intro part a hread
    cases part with
    | none =>
      obtain rfl := Except.ok.inj hread
      exact hdefault
    | some d => exact h.decode_encode hread
  inOrder_write := by
    intro part a hread v hv
    obtain rfl := Option.some.inj hv
    cases part with
    | none =>
      obtain rfl := Except.ok.inj hread
      exact h.inOrder_encode hdefault
    | some d => exact h.inOrder_encode hread
  kept := by
    intro part a horder hread
    cases part with
    | none =>
      obtain rfl := Except.ok.inj hread
      exact .absent
    | some v => exact .given (h.kept (horder v rfl) hread)

theorem faithful_required {get : ρ → α} {put : α → ρ → ρ}
    (h : Decoder.Faithful inner encode Kept) :
    (required key inner encode get put).Faithful initial (Json.Required Kept) where
  read_write := by
    intro part a hread
    cases part with
    | none => cases hread
    | some d => exact h.decode_encode hread
  inOrder_write := by
    intro part a hread v hv
    obtain rfl := Option.some.inj hv
    cases part with
    | none => cases hread
    | some d => exact h.inOrder_encode hread
  kept := by
    intro part a horder hread
    cases part with
    | none => cases hread
    | some v => exact .given (h.kept (horder v rfl) hread)

/-- A field is faithful that is left out exactly for the blank value, which means the default. -/
theorem faithful_of_leftOut {f : FieldForm ρ} {blank : Json} (habsence : f.absence ≠ .refused)
    (hinitial : f.write (f.get initial) = none)
    (hwrite : ∀ {d : Document} {a : f.Value}, f.inner d = .ok a →
      (f.write a = none ∧ a = f.get initial) ∨
        ∃ v, f.write a = some v ∧ v.InOrder ∧ f.inner (.ofJson v) = .ok a)
    (hkept : ∀ {v : Json} {a : f.Value}, v.InOrder → f.inner (.ofJson v) = .ok a →
      (f.write a = none ∧ v = blank) ∨
        v ≠ blank ∧ ∃ v', f.write a = some v' ∧ Kept v v') :
    f.Faithful initial (Json.UnlessBlank blank Kept) where
  read_write := by
    intro part a hread
    have hnone : f.read initial none = .ok (f.get initial) := if_neg habsence
    cases part with
    | none =>
      obtain rfl := Except.ok.inj (hnone.symm.trans hread)
      rwa [hinitial]
    | some d =>
      obtain ⟨hleft, rfl⟩ | ⟨v, hv, _, hagain⟩ := hwrite hread
      · rwa [hleft]
      · rwa [hv]
  inOrder_write := by
    intro part a hread v hv
    have hnone : f.read initial none = .ok (f.get initial) := if_neg habsence
    cases part with
    | none =>
      obtain rfl := Except.ok.inj (hnone.symm.trans hread)
      rw [hinitial] at hv
      cases hv
    | some d =>
      obtain ⟨hleft, _⟩ | ⟨w, hw, horder, _⟩ := hwrite hread
      · rw [hleft] at hv
        cases hv
      · exact Option.some.inj (hw.symm.trans hv) ▸ horder
  kept := by
    intro part a horder hread
    have hnone : f.read initial none = .ok (f.get initial) := if_neg habsence
    cases part with
    | none =>
      obtain rfl := Except.ok.inj (hnone.symm.trans hread)
      rw [hinitial]
      exact .absent
    | some v =>
      obtain ⟨hleft, rfl⟩ | ⟨hne, v', hv', hkept⟩ := hkept (horder v rfl) hread
      · rw [hleft]
        exact .blank
      · rw [hv']
        exact .given hne hkept

theorem optional_eq_ok {d : Document} {a : Option α} (h : Decoder.optional inner d = .ok a) :
    (d = .null ∧ a = none) ∨ d ≠ .null ∧ ∃ b, a = some b ∧ inner d = .ok b := by
  cases d with
  | null => exact .inl ⟨rfl, (Except.ok.inj h).symm⟩
  | _ =>
    obtain ⟨b, hb, rfl⟩ := map_eq_ok_iff.1 h
    exact .inr ⟨by simp, b, rfl, hb⟩

theorem optional_of_ne_null {d : Document} {b : α} (hne : d ≠ .null) (h : inner d = .ok b) :
    Decoder.optional inner d = .ok (some b) := by
  cases d with
  | null => exact absurd rfl hne
  | _ => exact map_eq_ok_iff.2 ⟨b, h, rfl⟩

theorem faithful_optional {get : ρ → Option α} {put : Option α → ρ → ρ}
    (h : Decoder.Faithful inner encode Kept) (hnull : ∀ a, inner .null ≠ .ok a)
    (hinitial : get initial = none) :
    (optional key inner encode get put).Faithful initial (Json.UnlessBlank .null Kept) := by
  refine faithful_of_leftOut (by simp [optional]) (by simp [optional, hinitial]) ?_ ?_
  · intro d a hread
    obtain ⟨_, rfl⟩ | ⟨_, b, rfl, hb⟩ := optional_eq_ok hread
    · exact .inl ⟨rfl, hinitial.symm⟩
    · have hagain := h.decode_encode hb
      have hne : Document.ofJson (encode b) ≠ .null := fun heq => hnull b (heq ▸ hagain)
      exact .inr ⟨encode b, rfl, h.inOrder_encode hb, optional_of_ne_null hne hagain⟩
  · intro v a horder hread
    obtain ⟨hv, rfl⟩ | ⟨hne, b, rfl, hb⟩ := optional_eq_ok hread
    · refine .inl ⟨rfl, ?_⟩
      cases v with
      | null => rfl
      | _ => cases hv
    · exact .inr ⟨fun hv => hne (hv ▸ rfl), encode b, rfl, h.kept horder hb⟩

theorem faithful_unlessEmpty {isEmpty : α → Bool} {get : ρ → α} {put : α → ρ → ρ}
    (h : Decoder.Faithful inner encode Kept)
    (hempty : ∀ a, isEmpty a = true ↔ a = get initial)
    (hdefault : inner (.ofJson (encode (get initial))) = .ok (get initial))
    (hblank : ∀ v, Kept v (encode (get initial)) → v = encode (get initial)) :
    (unlessEmpty key inner encode isEmpty get put).Faithful initial
      (Json.UnlessBlank (encode (get initial)) Kept) := by
  have hinitial : isEmpty (get initial) = true := (hempty _).2 rfl
  refine faithful_of_leftOut (by simp [unlessEmpty]) (if_pos hinitial) ?_ ?_
  · intro d a hread
    by_cases ha : isEmpty a
    · exact .inl ⟨if_pos ha, (hempty a).1 ha⟩
    · exact .inr ⟨encode a, if_neg ha, h.inOrder_encode hread, h.decode_encode hread⟩
  · intro v a horder hread
    have hkept := h.kept horder hread
    by_cases ha : isEmpty a
    · obtain rfl := (hempty a).1 ha
      exact .inl ⟨if_pos ha, hblank v hkept⟩
    · refine .inr ⟨?_, encode a, if_neg ha, hkept⟩
      rintro rfl
      exact ha ((hempty a).2 (Except.ok.inj (hread.symm.trans hdefault)))

end FieldForm

end Decoder

end ImageFlow
