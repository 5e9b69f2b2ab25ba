/-!
# Cutting a text at a character

Cuts at the first or the last occurrence of a separator, and the test whether one text occurs in
another.  All work on lists of characters; `cutFirst` and `cutLast` lose nothing but the
separator they cut at.
-/

namespace ImageFlow.Text

/-- The parts before and after the first `sep`. -/
def cutFirst (sep : Char) : List Char → Option (List Char × List Char)
  | [] => none
  | c :: rest =>
    if c = sep then some ([], rest)
    else (cutFirst sep rest).map fun (front, back) => (c :: front, back)

/-- The parts before and after the last `sep`. -/
def cutLast (sep : Char) : List Char → Option (List Char × List Char)
  | [] => none
  | c :: rest =>
    match cutLast sep rest with
    | some (front, back) => some (c :: front, back)
    | none => if c = sep then some ([], rest) else none

/-- The part before the first `sep`, or everything. -/
def beforeFirst (sep : Char) (cs : List Char) : List Char :=
  cs.takeWhile (· ≠ sep)

/-- The part after the last `sep`, or everything. -/
def afterLast (sep : Char) (cs : List Char) : List Char :=
  match cutLast sep cs with
  | some (_, back) => back
  | none => cs

/-- The characters after `front`, when the list begins with it. -/
def dropFront : List Char → List Char → Option (List Char)
  | [], cs => some cs
  | _ :: _, [] => none
  | f :: front, c :: cs => if f = c then dropFront front cs else none

def occursIn (needle : List Char) : List Char → Bool
  | [] => needle.isEmpty
  | c :: rest => needle.isPrefixOf (c :: rest) || occursIn needle rest

/-- The rest of the list from the first occurrence of `needle` on. -/
def fromFirst (needle : List Char) : List Char → Option (List Char)
  | [] => if needle.isEmpty then some [] else none
  | c :: rest => if needle.isPrefixOf (c :: rest) then some (c :: rest) else fromFirst needle rest

/-- A cut at the first separator is put together again by it, and the front is free of it. -/
theorem cutFirst_eq_some_iff {sep : Char} {cs front back : List Char} :
    cutFirst sep cs = some (front, back) ↔ cs = front ++ sep :: back ∧ sep ∉ front := by
  induction cs generalizing front with
  | nil => simp [cutFirst]
  | cons c rest ih =>
    by_cases hc : c = sep
    · subst hc
      constructor
      · rintro h
        simp only [cutFirst, if_true, Option.some.injEq, Prod.mk.injEq] at h
        obtain ⟨rfl, rfl⟩ := h
        simp
      · rintro ⟨h, hfront⟩
        cases front with
        | nil => simpa [cutFirst] using h
        | cons f fs =>
          simp only [List.cons_append, List.cons.injEq] at h
          exact absurd (h.1 ▸ List.mem_cons_self) hfront
    · simp only [cutFirst, hc, if_false, Option.map_eq_some_iff, Prod.exists, Prod.mk.injEq]
      constructor
      · rintro ⟨f, b, hcut, rfl, rfl⟩
        obtain ⟨rfl, hf⟩ := ih.1 hcut
        exact ⟨rfl, by simp [hf, Ne.symm hc]⟩
      · rintro ⟨h, hfront⟩
        cases front with
        | nil =>
          simp only [List.nil_append, List.cons.injEq] at h
          exact absurd h.1 hc
        | cons f fs =>
          simp only [List.cons_append, List.cons.injEq] at h
          refine ⟨fs, back, ih.2 ⟨h.2, fun hm => hfront (List.mem_cons_of_mem _ hm)⟩, ?_, rfl⟩
          rw [h.1]

/-- There is nothing to cut exactly when the separator does not occur. -/
theorem cutFirst_eq_none_iff {sep : Char} {cs : List Char} :
    cutFirst sep cs = none ↔ sep ∉ cs := by
  induction cs with
  | nil => simp [cutFirst]
  | cons c rest ih =>
    by_cases hc : c = sep
    · simp [cutFirst, hc]
    · simp [cutFirst, hc, ih, Ne.symm hc]

/-- There is nothing to cut exactly when the separator does not occur. -/
theorem cutLast_eq_none_iff {sep : Char} {cs : List Char} :
    cutLast sep cs = none ↔ sep ∉ cs := by
  induction cs with
  | nil => simp [cutLast]
  | cons c rest ih =>
    cases hrest : cutLast sep rest with
    | none =>
      have := ih.1 hrest
      by_cases hc : c = sep
      · simp [cutLast, hrest, hc]
      · simp [cutLast, hrest, hc, this, Ne.symm hc]
    | some parts =>
      have : sep ∈ rest := by
        by_cases hm : sep ∈ rest
        · exact hm
        · exact absurd (ih.2 hm) (by simp [hrest])
      simp [cutLast, hrest, this]

/-- A cut at the last separator is put together again by it, and the back is free of it. -/
theorem cutLast_eq_some_iff {sep : Char} {cs front back : List Char} :
    cutLast sep cs = some (front, back) ↔ cs = front ++ sep :: back ∧ sep ∉ back := by
  induction cs generalizing front with
  | nil => simp [cutLast]
  | cons c rest ih =>
    cases hrest : cutLast sep rest with
    | some parts =>
      obtain ⟨f', b'⟩ := parts
      simp only [cutLast, hrest, Option.some.injEq, Prod.mk.injEq]
      constructor
      · rintro ⟨rfl, rfl⟩
        have hsome : cutLast sep rest = some (f', b') := hrest
        have key : rest = f' ++ sep :: b' ∧ sep ∉ b' := by
          cases front : f' with
          | nil => rw [← front]; exact (@ih f').1 (by rw [hrest])
          | cons x xs => rw [← front]; exact (@ih f').1 (by rw [hrest])
        exact ⟨by rw [key.1]; rfl, key.2⟩
      · rintro ⟨h, hback⟩
        cases front with
        | nil =>
          simp only [List.nil_append, List.cons.injEq] at h
          have : sep ∉ rest := h.2 ▸ hback
          rw [cutLast_eq_none_iff.2 this] at hrest
          cases hrest
        | cons x xs =>
          simp only [List.cons_append, List.cons.injEq] at h
          have := (@ih xs).2 ⟨h.2, hback⟩
          rw [hrest] at this
          simp only [Option.some.injEq, Prod.mk.injEq] at this
          exact ⟨by rw [h.1, this.1], this.2⟩
    | none =>
      have hno := cutLast_eq_none_iff.1 hrest
      by_cases hc : c = sep
      · simp only [cutLast, hrest, hc, if_true, Option.some.injEq, Prod.mk.injEq]
        constructor
        · rintro ⟨rfl, rfl⟩
          exact ⟨rfl, hno⟩
        · rintro ⟨h, _⟩
          cases front with
          | nil =>
            simp only [List.nil_append, List.cons.injEq, true_and] at h
            exact ⟨rfl, h⟩
          | cons x xs =>
            simp only [List.cons_append, List.cons.injEq] at h
            exact absurd (by rw [h.2]; simp) hno
      · simp only [cutLast, hrest, hc, if_false, reduceCtorEq, false_iff, not_and]
        rintro h
        cases front with
        | nil =>
          simp only [List.nil_append, List.cons.injEq] at h
          exact absurd h.1 hc
        | cons x xs =>
          simp only [List.cons_append, List.cons.injEq] at h
          exact absurd (by rw [h.2]; simp) hno

/-- What is left after a front is what the list has behind it. -/
theorem dropFront_eq_some_iff {front cs rest : List Char} :
    dropFront front cs = some rest ↔ cs = front ++ rest := by
  induction front generalizing cs with
  | nil => simp [dropFront]
  | cons f front ih =>
    cases cs with
    | nil => simp [dropFront]
    | cons c cs =>
      by_cases hc : f = c
      · simp [dropFront, hc, ih]
      · simp [dropFront, hc, Ne.symm hc]

/-- The search for `needle` succeeds exactly when it occurs as a contiguous part. -/
theorem occursIn_iff {needle cs : List Char} : occursIn needle cs = true ↔ needle <:+: cs := by
  induction cs with
  | nil => simp [occursIn, List.isEmpty_iff]
  | cons c rest ih =>
    simp only [occursIn, Bool.or_eq_true, ih, List.isPrefixOf_iff_prefix, List.infix_cons_iff]

end ImageFlow.Text
