import ImageFlow.Json.Value
import Mathlib.Data.List.Forall2

/-!
# What one value keeps of another

Relations between a value that was read and a value that was written, built up like the shapes of
documents: elements of arrays, members of objects whose keys are free, and records.  A record may
be read from an array, which gives its fields by place; it is written as an object.  What may
become of a field is a relation between what was there and what is there, of which either can be
nothing.
-/

namespace ImageFlow

namespace Json

variable {R : Json → Json → Prop}

/-- Two arrays of the same length with related elements. -/
inductive EachItem (R : Json → Json → Prop) : Json → Json → Prop
  | array {before after : List Json} (h : List.Forall₂ R before after) :
      EachItem R (.array before) (.array after)

/-- Two objects with the same keys and related values under each. -/
inductive EachMember (R : Json → Json → Prop) : Json → Json → Prop
  | object {before after : List (String × Json)}
      (h : List.Forall₂ (fun b a => b.1 = a.1 ∧ R b.2 a.2) before after) :
      EachMember R (.object before) (.object after)

theorem EachItem.eq {v v' : Json} (h : EachItem (· = ·) v v') : v = v' := by
  obtain ⟨hitems⟩ := h
  rw [List.forall₂_eq_eq_eq] at hitems
  rw [hitems]

theorem EachMember.eq {v v' : Json} (h : EachMember (· = ·) v v') : v = v' := by
  obtain ⟨hmembers⟩ := h
  have hsame := hmembers.imp fun _ _ hpair => Prod.ext hpair.1 hpair.2
  rw [List.forall₂_eq_eq_eq] at hsame
  rw [hsame]

theorem EachItem.eq_nil {v : Json} (h : EachItem R v (.array [])) : v = .array [] := by
  cases h with
  | array hitems => rw [List.forall₂_nil_right_iff.1 hitems]

/-! ## Fields -/

/-- A field that is always written, with its default if it was left out. -/
inductive Always (default : Json) (R : Json → Json → Prop) : Option Json → Option Json → Prop
  | absent : Always default R none (some default)
  | given {v v' : Json} (h : R v v') : Always default R (some v) (some v')

/-- A field that is written unless it was left out or blank. -/
inductive UnlessBlank (blank : Json) (R : Json → Json → Prop) :
    Option Json → Option Json → Prop
  | absent : UnlessBlank blank R none none
  | blank : UnlessBlank blank R (some blank) none
  | given {v v' : Json} (hne : v ≠ blank) (h : R v v') :
      UnlessBlank blank R (some v) (some v')

/-- A field that must be there. -/
inductive Required (R : Json → Json → Prop) : Option Json → Option Json → Prop
  | given {v v' : Json} (h : R v v') : Required R (some v) (some v')

/-- A field of a record, by its key, and what may become of it. -/
structure FieldRule where
  key : String
  Kept : Option Json → Option Json → Prop

/-! ## Records -/

/-- What a value gives for a field of a record: the element at the place of the field if the value
is an array, and otherwise the member under the key of the field. -/
def part? (place : Nat) (key : String) : Json → Option Json
  | .array items => items[place]?
  | v => v.member? key

/-- A record, given as an object or as an array, is written as an object that keeps its fields and
has no other members. -/
structure KeptRecord (rules : List FieldRule) (v v' : Json) : Prop where
  object : ∃ members, v' = .object members
  declared : ∀ (place : Nat) (rule : FieldRule), rules[place]? = some rule →
    rule.Kept (v.part? place rule.key) (v'.member? rule.key)
  closed : ∀ key, (∀ rule ∈ rules, key ≠ rule.key) → v'.member? key = none

/-- An open record, given as an object, is written as an object that keeps its fields and has the
same other members. -/
structure KeptOpenRecord (rules : List FieldRule) (v v' : Json) : Prop where
  given : ∃ members, v = .object members
  object : ∃ members, v' = .object members
  declared : ∀ rule ∈ rules, rule.Kept (v.member? rule.key) (v'.member? rule.key)
  undeclared : ∀ key, (∀ rule ∈ rules, key ≠ rule.key) → v'.member? key = v.member? key

end Json

end ImageFlow
