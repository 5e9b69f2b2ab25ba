import ImageFlow.Json.Decode
import Mathlib.Data.List.Forall2

/-!
# Decoders and the depth of documents

A decoder looks at the parts of a document only through the decoders of the parts.  So two decoders
of arrays, maps or records agree on the documents of some height if their parts agree on the
documents below that height.  This is what makes the fuel of a recursive decoder irrelevant.
-/

namespace ImageFlow

namespace Decoder

variable {α ρ : Type} {bound : Nat}

/-- The decoders do the same on all documents of less than some height. -/
def AgreeBelow (bound : Nat) (first second : Decoder α) : Prop :=
  ∀ d : Document, d.height < bound → first d = second d

theorem AgreeBelow.mono {lower : Nat} {first second : Decoder α} (hle : lower ≤ bound)
    (h : AgreeBelow bound first second) : AgreeBelow lower first second :=
  fun d hd => h d (Nat.lt_of_lt_of_le hd hle)

theorem AgreeBelow.optional {first second : Decoder α} (h : AgreeBelow bound first second) :
    AgreeBelow bound (optional first) (optional second) := by
  intro d hd
  cases d with
  | null => rfl
  | _ => simp only [Decoder.optional, h _ hd]

theorem AgreeBelow.items {first second : Decoder α} (h : AgreeBelow bound first second)
    {parts : List Document} (hparts : Document.heightItems parts < bound) :
    items first parts = items second parts := by
  induction parts with
  | nil => rfl
  | cons part rest ih =>
    obtain ⟨hpart, hrest⟩ := Nat.max_lt.1 hparts
    simp only [Decoder.items, h part hpart, ih hrest]

theorem AgreeBelow.members {first second : Decoder α} (h : AgreeBelow bound first second)
    {parts : List (String × Document)} (hparts : Document.heightMembers parts < bound) :
    members first parts = members second parts := by
  induction parts with
  | nil => rfl
  | cons part rest ih =>
    obtain ⟨hpart, hrest⟩ := Nat.max_lt.1 hparts
    simp only [Decoder.members, h part.2 hpart, ih hrest]

theorem AgreeBelow.list {first second : Decoder α} (h : AgreeBelow bound first second) :
    AgreeBelow (bound + 1) (list first) (list second) := by
  intro d hd
  induction d using list.induct with
  | case1 parts stop => simp only [Decoder.list, h.items (Nat.lt_of_succ_lt_succ hd)]
  | case2 problem => rfl
  | case3 wanted passed ih => exact ih hd
  | case4 d harray hbroken hpassable => cases d <;> simp_all [Decoder.list]

theorem AgreeBelow.map {first second : Decoder α} (h : AgreeBelow bound first second) :
    AgreeBelow (bound + 1) (map first) (map second) := by
  intro d hd
  induction d using map.induct with
  | case1 parts stop => simp only [Decoder.map, h.members (Nat.lt_of_succ_lt_succ hd)]
  | case2 problem => rfl
  | case3 wanted passed ih => exact ih hd
  | case4 d hobject hbroken hpassable => cases d <;> simp_all [Decoder.map]

/-! ## Records -/

/-- The fields differ only in what they do with documents of some height or more. -/
structure RecordField.AgreeBelow (bound : Nat) (first second : RecordField ρ) : Prop where
  key_eq : first.key = second.key
  absence_eq : first.absence = second.absence
  take_eq : ∀ d : Document, d.height < bound → first.take d = second.take d

theorem RecordField.AgreeBelow.refl (bound : Nat) (f : RecordField ρ) :
    RecordField.AgreeBelow bound f f :=
  ⟨rfl, rfl, fun _ _ => rfl⟩

theorem AgreeBelow.field {first second : Decoder α} (h : AgreeBelow bound first second)
    (key : String) (put : α → ρ → ρ) (absence : Absence) :
    RecordField.AgreeBelow bound (field key first put absence)
      (field key second put absence) where
  key_eq := rfl
  absence_eq := rfl
  take_eq := by
    intro d hd
    simp only [Decoder.field, h d hd]

section Fields

variable {fields fields' : List (RecordField ρ)}
variable {other : String → Document → ρ → Except JsonProblem ρ}

theorem fieldOf?_rel (h : List.Forall₂ (RecordField.AgreeBelow bound) fields fields')
    (key : String) :
    Option.Rel (RecordField.AgreeBelow bound) (fieldOf? fields key) (fieldOf? fields' key) := by
  induction h with
  | nil => exact .none
  | @cons f g _ _ hfield _ ih =>
    simp only [fieldOf?, List.find?_cons, hfield.key_eq]
    by_cases hkey : (g.key == key) = true
    · simpa [hkey] using Option.Rel.some hfield
    · simpa [hkey, fieldOf?] using ih

theorem requireSeen_eq (h : List.Forall₂ (RecordField.AgreeBelow bound) fields fields')
    (seen : List String) : requireSeen fields seen = requireSeen fields' seen := by
  have hall : ∀ p : String → Absence → Bool,
      (fields.all fun f => p f.key f.absence) = fields'.all fun f => p f.key f.absence := by
    intro p
    induction h with
    | nil => rfl
    | cons hfield _ ih => simp only [List.all_cons, hfield.key_eq, hfield.absence_eq, ih]
  rw [requireSeen, requireSeen, hall fun key absence => absence != .refused || seen.contains key]

theorem takeMembers_eq (h : List.Forall₂ (RecordField.AgreeBelow bound) fields fields')
    {parts : List (String × Document)} (hparts : Document.heightMembers parts < bound)
    (seen : List String) (r : ρ) :
    takeMembers fields other parts seen r = takeMembers fields' other parts seen r := by
  induction parts generalizing seen r with
  | nil => rfl
  | cons part rest ih =>
    obtain ⟨hpart, hrest⟩ := Nat.max_lt.1 hparts
    have hlook := fieldOf?_rel h part.1
    simp only [takeMembers]
    cases hfirst : fieldOf? fields part.1 with
    | none =>
      rw [hfirst] at hlook
      cases hsecond : fieldOf? fields' part.1 with
      | none => simp only [ih hrest]
      | some g => simp [hsecond] at hlook
    | some f =>
      rw [hfirst] at hlook
      cases hsecond : fieldOf? fields' part.1 with
      | none => simp [hsecond] at hlook
      | some g =>
        rw [hsecond] at hlook
        cases hlook with
        | some hfield => simp only [hfield.take_eq part.2 hpart, ih hrest]

theorem takeObject_eq (h : List.Forall₂ (RecordField.AgreeBelow bound) fields fields')
    {parts : List (String × Document)} (hparts : Document.heightMembers parts < bound)
    (stop : Option JsonProblem) (initial : ρ) :
    takeObject fields other initial parts stop = takeObject fields' other initial parts stop := by
  simp only [takeObject, takeMembers_eq h hparts, requireSeen_eq h]

theorem takeItems_eq (h : List.Forall₂ (RecordField.AgreeBelow bound) fields fields')
    {parts : List Document} (hparts : Document.heightItems parts < bound)
    (stop : Option JsonProblem) (r : ρ) :
    takeItems fields parts stop r = takeItems fields' parts stop r := by
  induction h generalizing parts r with
  | nil => rfl
  | cons hfield _ ih =>
    cases parts with
    | nil => simp only [takeItems, hfield.absence_eq, ih hparts]
    | cons part rest =>
      obtain ⟨hpart, hrest⟩ := Nat.max_lt.1 hparts
      simp only [takeItems, hfield.take_eq part hpart, ih hrest]

theorem agreeBelow_record (h : List.Forall₂ (RecordField.AgreeBelow bound) fields fields')
    (initial : ρ) : AgreeBelow (bound + 1) (record fields initial) (record fields' initial) := by
  intro d hd
  induction d using record.induct with
  | case1 parts stop => exact takeObject_eq h (Nat.lt_of_succ_lt_succ hd) stop initial
  | case2 parts stop => exact takeItems_eq h (Nat.lt_of_succ_lt_succ hd) stop initial
  | case3 problem => rfl
  | case4 wanted passed ih => exact ih hd
  | case5 d hobject harray hbroken hpassable => cases d <;> simp_all [record]

theorem agreeBelow_openRecord (h : List.Forall₂ (RecordField.AgreeBelow bound) fields fields')
    (keep : String → Json → ρ → ρ) (initial : ρ) :
    AgreeBelow (bound + 1) (openRecord fields keep initial)
      (openRecord fields' keep initial) := by
  intro d hd
  induction d using openRecord.induct with
  | case1 parts stop => exact takeObject_eq h (Nat.lt_of_succ_lt_succ hd) stop initial
  | case2 problem => rfl
  | case3 wanted passed ih => exact ih hd
  | case4 d hobject hbroken hpassable => cases d <;> simp_all [openRecord]

end Fields

end Decoder

end ImageFlow
