import ImageFlow.Json.Reader
import ImageFlow.Proofs.Json.Order
import ImageFlow.Proofs.Text.Decimals
import Mathlib.Data.List.TakeDrop

/-!
# Integers in a JSON text

A number of the text becomes an integer exactly if it is written as one: digits without a zero in
front of others, with a minus or not, and neither point nor exponent behind them.  Two things are
left out.  An integer beyond 64 bits is none, and `-0` is none either, since no integer keeps its
sign.  Both become doubles, like every other number.
-/

namespace ImageFlow.JsonText

open Text (IsNatural digitsValue)

/-! ## Literals -/

/-- The digits of an integer in the grammar: a zero stands alone. -/
structure IsWhole (digits : List Char) (n : Nat) : Prop extends IsNatural digits n where
  zero_alone : ∀ others, digits = '0' :: others → others = []

inductive IsIntegerLiteral : List Char → Int → Prop where
  | unsigned {digits : List Char} {n : Nat} (h : IsWhole digits n) : IsIntegerLiteral digits n
  | negative {digits : List Char} {n : Nat} (h : IsWhole digits n) :
      IsIntegerLiteral ('-' :: digits) (-n)

/-- The integer literal is not continued. -/
structure EndsInteger (rest : List Char) : Prop where
  not_digit : ∀ c ∈ rest.head?, c.isDigit = false
  not_fraction : rest.head? ≠ some '.'
  not_exponent : rest.head? ≠ some 'e' ∧ rest.head? ≠ some 'E'

/-- A text begins with an integer literal that can be kept as an integer: it is no zero with a minus,
not below `-2⁶³`, and below `2⁶⁴`. -/
structure BeginsWithInteger (cs : List Char) (n : Int) (rest : List Char) : Prop where
  literal : ∃ literal, IsIntegerLiteral literal n ∧ literal ≠ ['-', '0'] ∧ cs = literal ++ rest
  ends : EndsInteger rest
  lower : -9223372036854775808 ≤ n
  upper : n < 18446744073709551616

theorem IsWhole.eq_zero_iff {digits : List Char} {n : Nat} (h : IsWhole digits n) :
    n = 0 ↔ digits = ['0'] := by
  constructor
  · rintro rfl
    obtain ⟨first, others, rfl⟩ := List.exists_cons_of_ne_nil h.ne_nil
    have hdigit : 48 ≤ first.toNat := (Char.isDigit_iff_toNat.mp (h.isDigit _ List.mem_cons_self)).1
    have hvalue := h.value_eq
    rw [Nat.ofDigitChars_cons, Nat.ofDigitChars_eq_ofDigitChars_zero] at hvalue
    have hproduct : 10 ^ others.length * (first.toNat - 48) = 0 := by
      simpa using (Nat.add_eq_zero_iff.mp hvalue).1
    have hzero : first.toNat - 48 = 0 :=
      (Nat.mul_eq_zero.mp hproduct).resolve_left (Nat.pow_pos (by decide)).ne'
    have hle : first.toNat ≤ 48 := Nat.sub_eq_zero_iff_le.mp hzero
    obtain rfl : first = '0' := Char.toNat_inj.mp (Nat.le_antisymm hle hdigit)
    rw [h.zero_alone others rfl]
  · rintro rfl
    exact h.value_eq.symm

/-! ## Reading digits -/

theorem span_isDigit_append {digits rest : List Char} (hdigits : ∀ c ∈ digits, c.isDigit = true)
    (hrest : ∀ c ∈ rest.head?, c.isDigit = false) :
    (digits ++ rest).span Char.isDigit = (digits, rest) := by
  have hstop : rest.takeWhile Char.isDigit = [] ∧ rest.dropWhile Char.isDigit = rest := by
    cases rest with
    | nil => exact ⟨rfl, rfl⟩
    | cons first others => simp [hrest first rfl]
  rw [List.span_eq_takeWhile_dropWhile, List.takeWhile_append_of_pos hdigits,
    List.dropWhile_append_of_pos hdigits, hstop.1, hstop.2, List.append_nil]

theorem readDigits_eq_ok_iff {cs digits rest : List Char} :
    readDigits cs = .ok (digits, rest) ↔
      digits ≠ [] ∧ (∀ c ∈ digits, c.isDigit = true) ∧ (∀ c ∈ rest.head?, c.isDigit = false) ∧
        cs = digits ++ rest := by
  constructor
  · intro h
    rw [readDigits] at h
    split at h
    next => cases h
    next front behind hne hspan =>
      obtain ⟨rfl, rfl⟩ := Prod.mk.inj (Except.ok.inj h)
      rw [List.span_eq_takeWhile_dropWhile] at hspan
      obtain ⟨rfl, rfl⟩ := Prod.mk.inj hspan
      refine ⟨?_, fun c => List.mem_takeWhile_imp, ?_, List.takeWhile_append_dropWhile.symm⟩
      · intro hnil
        exact hne hnil
      · intro c hc
        have hfirst := List.head?_dropWhile_not Char.isDigit cs
        rwa [hc] at hfirst
  · rintro ⟨hne, hdigits, hrest, rfl⟩
    obtain ⟨first, others, rfl⟩ := List.exists_cons_of_ne_nil hne
    rw [readDigits, span_isDigit_append hdigits hrest]

theorem readWhole_eq_ok_iff {cs digits rest : List Char} :
    readWhole cs = .ok (digits, rest) ↔
      IsWhole digits (digitsValue digits) ∧ (∀ c ∈ rest.head?, c.isDigit = false) ∧
        cs = digits ++ rest := by
  rw [readWhole, bind_eq_ok_iff]
  constructor
  · rintro ⟨⟨front, behind⟩, hread, hwhole⟩
    obtain ⟨hne, hdigits, hbehind, hcs⟩ := readDigits_eq_ok_iff.mp hread
    dsimp only at hwhole
    split at hwhole
    · cases hwhole
    · next hzero =>
      obtain ⟨rfl, rfl⟩ := Prod.mk.inj (Except.ok.inj hwhole)
      refine ⟨⟨⟨hne, hdigits, (Text.digitsValue_eq_ofDigitChars _).symm⟩, ?_⟩, hbehind, hcs⟩
      rintro (_ | ⟨second, others⟩) hothers
      · rfl
      · exact absurd hothers (hzero second others)
  · rintro ⟨hwhole, hrest, hcs⟩
    have hread := readDigits_eq_ok_iff.mpr ⟨hwhole.ne_nil, hwhole.isDigit, hrest, hcs⟩
    refine ⟨(digits, rest), hread, ?_⟩
    dsimp only
    split
    · cases hwhole.zero_alone _ rfl
    · rfl

theorem readFraction_eq_nil_iff {cs rest : List Char} :
    readFraction cs = .ok ([], rest) ↔ rest = cs ∧ cs.head? ≠ some '.' := by
  by_cases hpoint : cs.head? = some '.'
  · obtain ⟨after, rfl⟩ := List.head?_eq_some_iff.mp hpoint
    have hread : readDigits after ≠ .ok ([], rest) := fun h => (readDigits_eq_ok_iff.mp h).1 rfl
    simp [readFraction, hread]
  · have hplain : readFraction cs = .ok ([], cs) := by
      rw [readFraction.eq_2]
      rintro after rfl
      exact hpoint rfl
    simp [hplain, hpoint, eq_comm]

theorem readExponent_eq_none_iff {cs rest : List Char} :
    readExponent cs = .ok (none, rest) ↔
      rest = cs ∧ cs.head? ≠ some 'e' ∧ cs.head? ≠ some 'E' := by
  by_cases hletter : cs.head? = some 'e' ∨ cs.head? = some 'E'
  · have hne : readExponent cs ≠ .ok (none, rest) := by
      rw [List.head?_eq_some_iff, List.head?_eq_some_iff] at hletter
      obtain ⟨after, rfl⟩ | ⟨after, rfl⟩ := hletter
      all_goals
        intro h
        obtain ⟨_, -, hpure⟩ := bind_eq_ok_iff.mp h
        cases hpure
    tauto
  · rw [not_or] at hletter
    have hplain : readExponent cs = .ok (none, cs) := by
      rw [readExponent.eq_3]
      · rintro after rfl
        exact hletter.1 rfl
      · rintro after rfl
        exact hletter.2 rfl
    simp [hplain, hletter, eq_comm]

/-! ## Reading numerals -/

theorem readUnsigned_eq_ok_iff {negative written : Bool} {cs whole rest : List Char} :
    readUnsigned written cs = .ok (⟨negative, whole, [], none⟩, rest) ↔
      negative = written ∧ IsWhole whole (digitsValue whole) ∧ EndsInteger rest ∧
        cs = whole ++ rest := by
  simp only [readUnsigned, bind_eq_ok_iff, pure_eq_ok_iff]
  constructor
  · rintro ⟨⟨whole', behind⟩, hwhole, ⟨fraction, behind'⟩, hfraction, ⟨exponent, behind''⟩,
      hexponent, hnumeral⟩
    cases hnumeral
    obtain ⟨rfl, hexponent⟩ := readExponent_eq_none_iff.mp hexponent
    obtain ⟨rfl, hfraction⟩ := readFraction_eq_nil_iff.mp hfraction
    obtain ⟨hwhole, hdigit, hcs⟩ := readWhole_eq_ok_iff.mp hwhole
    exact ⟨rfl, hwhole, ⟨hdigit, hfraction, hexponent⟩, hcs⟩
  · rintro ⟨rfl, hwhole, hends, hcs⟩
    exact ⟨(whole, rest), readWhole_eq_ok_iff.mpr ⟨hwhole, hends.not_digit, hcs⟩,
      ([], rest), readFraction_eq_nil_iff.mpr ⟨rfl, hends.not_fraction⟩,
      (none, rest), readExponent_eq_none_iff.mpr ⟨rfl, hends.not_exponent⟩, rfl⟩

theorem IsWhole.not_minus {digits : List Char} {n : Nat} (h : IsWhole digits n)
    (rest : List Char) : (digits ++ rest).head? ≠ some '-' := by
  obtain ⟨first, others, rfl⟩ := List.exists_cons_of_ne_nil h.ne_nil
  rintro hminus
  obtain rfl := Option.some.inj hminus
  exact absurd (h.isDigit '-' List.mem_cons_self) (by decide)

/-- A numeral without fraction and exponent is an integer literal, its sign included. -/
theorem readNumeral_eq_ok_iff {negative : Bool} {cs whole rest : List Char} :
    readNumeral cs = .ok (⟨negative, whole, [], none⟩, rest) ↔
      IsWhole whole (digitsValue whole) ∧ EndsInteger rest ∧
        cs = (if negative then ['-'] else []) ++ whole ++ rest := by
  by_cases hminus : cs.head? = some '-'
  · obtain ⟨after, rfl⟩ := List.head?_eq_some_iff.mp hminus
    rw [readNumeral, readUnsigned_eq_ok_iff]
    cases negative with
    | true => simp
    | false =>
        simp only [Bool.false_eq_true, false_and, if_false, List.nil_append, false_iff]
        rintro ⟨hwhole, -, hcs⟩
        exact hwhole.not_minus rest (hcs ▸ hminus)
  · have hplain : readNumeral cs = readUnsigned false cs := by
      rw [readNumeral.eq_2]
      rintro after rfl
      exact hminus rfl
    rw [hplain, readUnsigned_eq_ok_iff]
    cases negative with
    | false => simp
    | true =>
        simp only [Bool.true_eq_false, false_and, if_true, List.cons_append, false_iff]
        rintro ⟨-, -, rfl⟩
        exact hminus rfl

/-! ## Values -/

theorem Numeral.double?_ne_integer (numeral : Numeral) (n : Int) :
    numeral.double? ≠ some (.integer n) := by
  simp [double?]

/-- A numeral is an integer if it fits 64 bits, and is not the zero with a minus. -/
theorem Numeral.value?_eq_integer_iff {numeral : Numeral} {n : Int} :
    numeral.value? = some (.integer n) ↔
      numeral.fraction = [] ∧ numeral.exponent = none ∧
        if numeral.negative then
          n = -digitsValue numeral.whole ∧ 0 < digitsValue numeral.whole ∧
            -9223372036854775808 ≤ n
        else n = digitsValue numeral.whole ∧ n < 18446744073709551616 := by
  have hdouble := numeral.double?_ne_integer n
  have hsize : UInt64.size = 18446744073709551616 := rfl
  by_cases hplain : numeral.fraction = [] ∧ numeral.exponent = none
  · rw [value?, if_pos hplain, hsize, and_iff_right hplain.1, and_iff_right hplain.2]
    cases hnegative : numeral.negative with
    | false =>
        simp only [Bool.not_false, true_and, Bool.false_eq_true, false_and, if_false]
        split
        · rw [Option.some.injEq, Number.integer.injEq]
          omega
        · exact iff_of_false hdouble (by omega)
    | true =>
        simp only [Bool.not_true, Bool.false_eq_true, false_and, if_false, true_and, if_true]
        split
        · rw [Option.some.injEq, Number.integer.injEq]
          omega
        · exact iff_of_false hdouble (by omega)
  · rw [value?, if_neg hplain]
    tauto

theorem IsWhole.digitsValue_eq {digits : List Char} {n : Nat} (h : IsWhole digits n) :
    digitsValue digits = n := by
  rw [Text.digitsValue_eq_ofDigitChars, h.value_eq]

/-- A number of the text is an integer exactly if it is written as one. -/
theorem readNumber_eq_integer_iff {cs rest : List Char} {n : Int} :
    readNumber cs = .ok (.integer n, rest) ↔ BeginsWithInteger cs n rest := by
  rw [readNumber, bind_eq_ok_iff]
  constructor
  · rintro ⟨⟨⟨negative, whole, fraction, exponent⟩, behind⟩, hread, hvalue⟩
    dsimp only at hvalue
    split at hvalue
    · next value hsome =>
      obtain ⟨rfl, rfl⟩ := Prod.mk.inj (Except.ok.inj hvalue)
      obtain ⟨rfl, rfl, hn⟩ := Numeral.value?_eq_integer_iff.mp hsome
      obtain ⟨hwhole, hends, hcs⟩ := readNumeral_eq_ok_iff.mp hread
      cases negative with
      | false =>
          obtain ⟨rfl, hupper⟩ : n = digitsValue whole ∧ n < 18446744073709551616 := hn
          refine ⟨⟨whole, .unsigned hwhole, ?_, hcs⟩, hends, by omega, hupper⟩
          rintro rfl
          exact hwhole.not_minus [] rfl
      | true =>
          obtain ⟨rfl, hpos, hlower⟩ :
              n = -digitsValue whole ∧ 0 < digitsValue whole ∧ -9223372036854775808 ≤ n := hn
          refine ⟨⟨'-' :: whole, .negative hwhole, ?_, hcs⟩, hends, hlower, by omega⟩
          rintro hzero
          have hvalue := hwhole.eq_zero_iff.mpr (List.cons.inj hzero).2
          omega
    · cases hvalue
  · rintro ⟨⟨literal, hliteral, hzero, rfl⟩, hends, hlower, hupper⟩
    cases hliteral with
    | @unsigned _ m hwhole =>
        obtain rfl := hwhole.digitsValue_eq
        have hread : readNumeral (literal ++ rest) = .ok (⟨false, literal, [], none⟩, rest) :=
          readNumeral_eq_ok_iff.mpr ⟨hwhole, hends, rfl⟩
        have hvalue : Numeral.value? ⟨false, literal, [], none⟩ =
            some (.integer (digitsValue literal)) :=
          Numeral.value?_eq_integer_iff.mpr ⟨rfl, rfl, rfl, hupper⟩
        exact ⟨_, hread, by simp only [hvalue]⟩
    | @negative digits m hwhole =>
        obtain rfl := hwhole.digitsValue_eq
        have hread : readNumeral ('-' :: digits ++ rest) = .ok (⟨true, digits, [], none⟩, rest) :=
          readNumeral_eq_ok_iff.mpr ⟨hwhole, hends, rfl⟩
        have hpos : 0 < digitsValue digits := by
          rw [Nat.pos_iff_ne_zero]
          intro hvalue
          rw [hwhole.eq_zero_iff.mp hvalue] at hzero
          exact hzero rfl
        have hvalue : Numeral.value? ⟨true, digits, [], none⟩ =
            some (.integer (-digitsValue digits)) :=
          Numeral.value?_eq_integer_iff.mpr ⟨rfl, rfl, rfl, hpos, hlower⟩
        exact ⟨_, hread, by simp only [hvalue]⟩

/-! ## Written integers -/

theorem head?_toDigits_ne_zero {n : Nat} (hn : 0 < n) : (Nat.toDigits 10 n).head? ≠ some '0' := by
  induction n using Nat.strongRecOn with
  | ind n ih =>
      by_cases hsmall : n < 10
      · rw [Nat.toDigits_of_lt_base hsmall]
        simpa using Nat.ne_of_gt hn
      · have hlarge : 10 ≤ n := Nat.le_of_not_lt hsmall
        have hrest := ih (n / 10) (by omega) (by omega)
        rw [Nat.toDigits_of_base_le (by decide) hlarge, List.head?_append_of_ne_nil _
          Nat.toDigits_ne_nil]
        exact hrest

theorem isWhole_toDigits (n : Nat) : IsWhole (Nat.toDigits 10 n) n where
  toIsNatural := Text.isNatural_toDigits n
  zero_alone others hothers := by
    rcases Nat.eq_zero_or_pos n with rfl | hn
    · exact (List.cons.inj hothers).2.symm
    · have hhead := head?_toDigits_ne_zero hn
      rw [hothers] at hhead
      exact absurd rfl hhead

/-- An integer is written as a literal that can be kept as an integer. -/
theorem isIntegerLiteral_toString (n : Int) :
    IsIntegerLiteral (toString n).toList n ∧ (toString n).toList ≠ ['-', '0'] := by
  rw [Text.toList_toString_int]
  split
  · next hn =>
    have h : IsIntegerLiteral (Nat.toDigits 10 n.toNat) n.toNat := .unsigned (isWhole_toDigits _)
    rw [Int.toNat_of_nonneg hn] at h
    refine ⟨h, fun hminus => ?_⟩
    exact (isWhole_toDigits n.toNat).not_minus [] (by rw [hminus]; rfl)
  · next hn =>
    have h : IsIntegerLiteral ('-' :: Nat.toDigits 10 (-n).toNat) (-((-n).toNat : Int)) :=
      .negative (isWhole_toDigits _)
    rw [Int.toNat_of_nonneg (by omega), Int.neg_neg] at h
    refine ⟨h, fun hzero => ?_⟩
    have hvalue := (isWhole_toDigits _).eq_zero_iff.mpr (List.cons.inj hzero).2
    omega

end ImageFlow.JsonText
