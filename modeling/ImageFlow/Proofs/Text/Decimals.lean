import ImageFlow.Text.Blank
import ImageFlow.Text.Numeral
import Mathlib.Data.List.DropRight

/-!
# Decimal numerals

A numeral is an optional sign and one or more digits, and it is read as the integer that it denotes:
nothing else is read, and an integer beyond 64 bits is refused rather than cut.  Blanks around a
numeral are told from it since it has none in it.
-/

namespace ImageFlow.Text

/-! ## Numerals -/

/-- The characters are one or more digits that denote the number. -/
structure IsNatural (cs : List Char) (n : Nat) : Prop where
  ne_nil : cs ≠ []
  isDigit : ∀ c ∈ cs, c.isDigit = true
  value_eq : Nat.ofDigitChars 10 cs 0 = n

/-- The characters are a numeral of the integer: an optional sign and one or more digits. -/
inductive IsDecimal : List Char → Int → Prop where
  | unsigned {digits : List Char} {n : Nat} (h : IsNatural digits n) : IsDecimal digits n
  | plus {digits : List Char} {n : Nat} (h : IsNatural digits n) : IsDecimal ('+' :: digits) n
  | minus {digits : List Char} {n : Nat} (h : IsNatural digits n) : IsDecimal ('-' :: digits) (-n)

/-- The integer has a two's complement form of 64 bits: it is not below `-2⁶³`, and below `2⁶³`. -/
def IsInt64 (n : Int) : Prop :=
  -9223372036854775808 ≤ n ∧ n < 9223372036854775808

instance (n : Int) : Decidable (IsInt64 n) :=
  inferInstanceAs (Decidable (_ ∧ _))

theorem fitsInt64_iff {n : Int} : fitsInt64 n = true ↔ IsInt64 n := by
  simp [fitsInt64, IsInt64]

example : fitsInt64 (-Int.pow 2 63) = true ∧ fitsInt64 (-Int.pow 2 63 - 1) = false ∧
    fitsInt64 (Int.pow 2 63 - 1) = true ∧ fitsInt64 (Int.pow 2 63) = false := by decide

/-- What holds of the digits and of both signs holds of all characters of a numeral. -/
theorem IsDecimal.forall_mem {P : Char → Prop} {cs : List Char} {n : Int} (h : IsDecimal cs n)
    (hdigit : ∀ c : Char, c.isDigit = true → P c) (hplus : P '+') (hminus : P '-') :
    ∀ c ∈ cs, P c := by
  have hdigits {digits : List Char} {value : Nat} (h : IsNatural digits value) :
      ∀ c ∈ digits, P c := fun c hc => hdigit c (h.isDigit c hc)
  cases h with
  | unsigned h => exact hdigits h
  | plus h => exact List.forall_mem_cons.mpr ⟨hplus, hdigits h⟩
  | minus h => exact List.forall_mem_cons.mpr ⟨hminus, hdigits h⟩

theorem digitsValue_eq_ofDigitChars (cs : List Char) :
    digitsValue cs = Nat.ofDigitChars 10 cs 0 :=
  Nat.ofDigitChars_eq_foldl.symm

theorem natural?_eq_some_iff {cs : List Char} {n : Nat} :
    natural? cs = some n ↔ IsNatural cs n := by
  rw [natural?, Option.ite_none_right_eq_some, List.all_eq_true, digitsValue_eq_ofDigitChars,
    Option.some.injEq]
  constructor
  · rintro ⟨⟨hne, hdigits⟩, hvalue⟩
    exact ⟨hne, hdigits, hvalue⟩
  · rintro ⟨hne, hdigits, hvalue⟩
    exact ⟨⟨hne, hdigits⟩, hvalue⟩

theorem integer?_of_isNatural {cs : List Char} {n : Nat} (h : IsNatural cs n) :
    integer? cs = some (n : Int) := by
  have hnatural : natural? cs = some n := natural?_eq_some_iff.mpr h
  have hfirst (sign : Char) (hsign : sign.isDigit = false) (rest : List Char) :
      cs ≠ sign :: rest := by
    rintro rfl
    have hdigit := h.isDigit sign List.mem_cons_self
    rw [hsign] at hdigit
    cases hdigit
  rw [integer?.eq_3 cs (hfirst '-' rfl) (hfirst '+' rfl), hnatural]
  rfl

/-- What is read as an integer are the numerals, and each of them as the integer that it denotes. -/
theorem integer?_eq_some_iff {cs : List Char} {n : Int} :
    integer? cs = some n ↔ IsDecimal cs n := by
  constructor
  · intro h
    rw [integer?.eq_def] at h
    split at h
    all_goals
      obtain ⟨value, hcast, rfl⟩ := Option.map_eq_some_iff.mp h
      obtain ⟨natural, hnatural, hvalue⟩ := Option.bind_eq_some_iff.mp hcast
      obtain rfl := Option.some.inj hvalue
      rw [natural?_eq_some_iff] at hnatural
    · exact .minus hnatural
    · exact .plus hnatural
    · exact .unsigned hnatural
  · intro h
    cases h with
    | unsigned h => exact integer?_of_isNatural h
    | plus h =>
        rw [integer?, natural?_eq_some_iff.mpr h]
        rfl
    | minus h =>
        rw [integer?, natural?_eq_some_iff.mpr h]
        rfl

theorem int64?_eq_some_iff {s : String} {n : Int} :
    int64? s = some n ↔ IsDecimal s.toList n ∧ IsInt64 n := by
  rw [int64?, Option.filter_eq_some_iff, integer?_eq_some_iff, fitsInt64_iff]

/-! ## Written numbers -/

theorem isNatural_toDigits (n : Nat) : IsNatural (Nat.toDigits 10 n) n where
  ne_nil := Nat.toDigits_ne_nil
  isDigit _ hc := Nat.isDigit_of_mem_toDigits (by decide) (by decide) hc
  value_eq := Nat.ofDigitChars_ten_toDigits

/-- An integer is written as digits, with a minus before them if it is negative. -/
theorem toList_toString_int (n : Int) :
    (toString n).toList =
      if 0 ≤ n then Nat.toDigits 10 n.toNat else '-' :: Nat.toDigits 10 (-n).toNat := by
  rw [Int.toString_eq_repr, Int.repr_eq_if]
  split
  · exact Nat.toList_repr
  · rw [String.toList_append, Nat.toList_repr]
    rfl

theorem isDecimal_toString (n : Int) : IsDecimal (toString n).toList n := by
  rw [toList_toString_int]
  split
  · next hn =>
    have h : IsDecimal (Nat.toDigits 10 n.toNat) n.toNat := .unsigned (isNatural_toDigits n.toNat)
    rwa [Int.toNat_of_nonneg hn] at h
  · next hn =>
    have h : IsDecimal ('-' :: Nat.toDigits 10 (-n).toNat) (-((-n).toNat : Int)) :=
      .minus (isNatural_toDigits (-n).toNat)
    rwa [Int.toNat_of_nonneg (by omega), Int.neg_neg] at h

/-! ## Blanks around a numeral -/

theorem IsDecimal.ne_nil {cs : List Char} {n : Int} (h : IsDecimal cs n) : cs ≠ [] := by
  cases h with
  | unsigned h => exact h.ne_nil
  | plus h => exact List.cons_ne_nil _ _
  | minus h => exact List.cons_ne_nil _ _

theorem isBlank_of_isDigit {c : Char} (h : c.isDigit = true) : isBlank c = false := by
  obtain ⟨hfirst, hlast⟩ : 48 ≤ c.toNat ∧ c.toNat ≤ 57 := Char.isDigit_iff_toNat.mp h
  simp [isBlank]
  omega

theorem IsDecimal.not_blank {cs : List Char} {n : Int} (h : IsDecimal cs n) :
    ∀ c ∈ cs, isBlank c = false :=
  h.forall_mem (fun _ => isBlank_of_isDigit) (by decide) (by decide)

/-- The text is a core and blanks before and behind it. -/
structure IsPadded (cs core : List Char) : Prop where
  cut : ∃ front back, cs = front ++ core ++ back ∧ (∀ c ∈ front, isBlank c = true) ∧
    ∀ c ∈ back, isBlank c = true

theorem isPadded_trimChars (cs : List Char) : IsPadded cs (trimChars cs) := by
  refine ⟨cs.takeWhile isBlank, (cs.dropWhile isBlank).rtakeWhile isBlank, ?_, ?_, ?_⟩
  · have htail : trimChars cs = (cs.dropWhile isBlank).rdropWhile isBlank := by
      rw [trimChars, dropTail, List.rdropWhile]
    rw [htail, List.append_assoc, List.rdropWhile_append_rtakeWhile,
      List.takeWhile_append_dropWhile]
  · exact fun c => List.mem_takeWhile_imp
  · exact fun c => List.mem_rtakeWhile_imp

theorem dropWhile_isBlank_append {core : List Char} (hne : core ≠ [])
    (hcore : ∀ c ∈ core, isBlank c = false) (rest : List Char) :
    (core ++ rest).dropWhile isBlank = core ++ rest := by
  obtain ⟨first, others, rfl⟩ := List.exists_cons_of_ne_nil hne
  exact List.dropWhile_cons_of_neg (by simp [hcore first List.mem_cons_self])

/-- A core without blanks is what is left of the text when the blanks at its ends are gone. -/
theorem IsPadded.trimChars_eq {cs core : List Char} (h : IsPadded cs core) (hne : core ≠ [])
    (hcore : ∀ c ∈ core, isBlank c = false) : trimChars cs = core := by
  obtain ⟨front, back, rfl, hfront, hback⟩ := h
  have hstart : (front ++ core ++ back).dropWhile isBlank = core ++ back := by
    rw [List.append_assoc, List.dropWhile_append_of_pos hfront,
      dropWhile_isBlank_append hne hcore]
  have hend : (back.reverse ++ core.reverse).dropWhile isBlank = core.reverse := by
    have hreverse := dropWhile_isBlank_append (List.reverse_ne_nil_iff.mpr hne)
      (fun c hc => hcore c (List.mem_reverse.mp hc)) []
    rw [List.append_nil] at hreverse
    rw [List.dropWhile_append_of_pos fun c hc => hback c (List.mem_reverse.mp hc), hreverse]
  rw [trimChars, dropTail, hstart, List.reverse_append, hend, List.reverse_reverse]

/-- An integer is read from a text without the blanks at its ends exactly if the text is a numeral
with blanks around it. -/
theorem int64?_trim_eq_some_iff {s : String} {n : Int} :
    int64? (trim s) = some n ↔
      (∃ core, IsPadded s.toList core ∧ IsDecimal core n) ∧ IsInt64 n := by
  rw [int64?_eq_some_iff, trim, String.toList_ofList]
  refine and_congr_left' ⟨fun h => ⟨_, isPadded_trimChars s.toList, h⟩, ?_⟩
  rintro ⟨core, hpadded, hdecimal⟩
  rwa [hpadded.trimChars_eq hdecimal.ne_nil hdecimal.not_blank]

end ImageFlow.Text
