import ImageFlow.Proofs.Text.Segments
import ImageFlow.Resource.Name
import Mathlib.Computability.RegularExpressions

/-!
# Forms of names

The forms of names as regular expressions, which are put together from the same few pieces, and in
plain words: small letters, digits and dashes, with a letter first, no dash at the end, and a
shortest and a longest length.  A check accepts a text exactly when it matches its expression, and
exactly when it has the form in plain words.  The path of an image comes apart into a project and a
name in one way only, since neither of them has a slash.
-/

namespace ImageFlow.ResourceName

open Text (SlashFree segments)

/-! ## Pieces of expressions -/

/-- One of these characters. -/
def oneOf (cs : List Char) : RegularExpression Char :=
  (cs.map RegularExpression.char).sum

/-- These characters, in order. -/
def exactly (cs : List Char) : RegularExpression Char :=
  (cs.map RegularExpression.char).prod

/-- An expression repeated from `least` to `least + more` times. -/
def repeated (least more : ℕ) (e : RegularExpression Char) : RegularExpression Char :=
  e ^ least * (1 + e) ^ more

def letters : List Char := "abcdefghijklmnopqrstuvwxyz".toList

def digits : List Char := "0123456789".toList

def nameChars : List Char := '-' :: letters ++ digits

/-- A letter, then name characters, then a letter or a digit. -/
def dashedName (least more : ℕ) : RegularExpression Char :=
  oneOf letters * (repeated least more (oneOf nameChars) * oneOf (letters ++ digits))

def imageName : RegularExpression Char :=
  oneOf letters * (1 + repeated 0 61 (oneOf nameChars) * oneOf (letters ++ digits))

/-- The expression for project ids. -/
def projectId : RegularExpression Char :=
  (1 + exactly projectDomain) * dashedName 4 24

/-- Small letters, digits and dashes, with a letter first, no dash at the end, and a length between
the bounds. -/
structure IsDashed (shortest longest : ℕ) (cs : List Char) : Prop where
  all_nameChars : ∀ c ∈ cs, c ∈ nameChars
  letter_first : ∃ c ∈ letters, cs.head? = some c
  dash_not_last : cs.getLast? ≠ some '-'
  shortest_le : shortest ≤ cs.length
  le_longest : cs.length ≤ longest

theorem mem_nameChars {c : Char} : c ∈ nameChars ↔ c ∈ letters ++ digits ∨ c = '-' := by
  rw [nameChars, List.cons_append, List.mem_cons, or_comm]

theorem isSmall_iff {c : Char} : isSmall c = true ↔ c ∈ letters := by
  constructor
  · intro h
    simp only [isSmall, Bool.and_eq_true, decide_eq_true_eq, Char.le_def,
      UInt32.le_iff_toNat_le, Char.toNat_val] at h
    have hall : ∀ n ∈ List.range' 97 26, Char.ofNat n ∈ letters := by decide
    have hc := hall c.toNat (List.mem_range'_1.mpr ⟨h.1, Nat.lt_succ_of_le h.2⟩)
    rwa [Char.ofNat_toNat] at hc
  · intro h
    have hall : letters.all isSmall = true := by decide
    exact List.all_eq_true.mp hall c h

theorem isDigit_iff {c : Char} : c.isDigit = true ↔ c ∈ digits := by
  constructor
  · intro h
    rw [Char.isDigit_iff_toNat] at h
    have hall : ∀ n ∈ List.range' 48 10, Char.ofNat n ∈ digits := by decide
    have hc := hall c.toNat (List.mem_range'_1.mpr ⟨h.1, Nat.lt_succ_of_le h.2⟩)
    rwa [Char.ofNat_toNat] at hc
  · intro h
    have hall : digits.all Char.isDigit = true := by decide
    exact List.all_eq_true.mp hall c h

theorem isNameChar_iff {c : Char} : isNameChar c = true ↔ c ∈ nameChars := by
  rw [isNameChar, Bool.or_eq_true, Bool.or_eq_true, isSmall_iff, isDigit_iff, mem_nameChars,
    List.mem_append, decide_eq_true_eq]

theorem isDashed_iff {cs : List Char} {shortest longest : ℕ} :
    (isDashed cs = true ∧ shortest ≤ cs.length ∧ cs.length ≤ longest) ↔
      IsDashed shortest longest cs := by
  have hhead : cs.head?.any isSmall = true ↔ ∃ c ∈ letters, cs.head? = some c := by
    rw [Option.any_eq_true]
    simp only [isSmall_iff, and_comm]
  simp only [isDashed, Bool.and_eq_true, hhead, List.all_eq_true, isNameChar_iff,
    decide_eq_true_eq]
  constructor
  · rintro ⟨⟨⟨hletter, hall⟩, hdash⟩, hshortest, hlongest⟩
    exact ⟨hall, hletter, hdash, hshortest, hlongest⟩
  · rintro ⟨hall, hletter, hdash, hshortest, hlongest⟩
    exact ⟨⟨⟨hletter, hall⟩, hdash⟩, hshortest, hlongest⟩

/-- No id begins with the domain, since the domain has a point. -/
theorem dropFront_projectDomain_of_isDashed {cs : List Char} {shortest longest : ℕ}
    (h : IsDashed shortest longest cs) : Text.dropFront projectDomain cs = none := by
  rw [Option.eq_none_iff_forall_ne_some]
  intro rest hrest
  rw [Text.dropFront_eq_some_iff] at hrest
  have hpoint : '.' ∈ cs := by
    rw [hrest]
    exact List.mem_append_left rest (by decide)
  exact absurd (h.all_nameChars '.' hpoint) (by decide)

theorem isProjectId_iff {cs : List Char} :
    isProjectId cs = true ↔ ∃ id, IsDashed 6 30 id ∧ (cs = id ∨ cs = projectDomain ++ id) := by
  have hid : isProjectId cs = true ↔
      IsDashed 6 30 ((Text.dropFront projectDomain cs).getD cs) := by
    rw [← isDashed_iff]
    simp [isProjectId, and_assoc]
  rw [hid]
  constructor
  · intro h
    cases hdrop : Text.dropFront projectDomain cs with
    | none =>
        rw [hdrop] at h
        exact ⟨cs, h, .inl rfl⟩
    | some id =>
        rw [hdrop] at h
        exact ⟨id, h, .inr (Text.dropFront_eq_some_iff.mp hdrop)⟩
  · rintro ⟨id, hdashed, rfl | rfl⟩
    · rwa [dropFront_projectDomain_of_isDashed hdashed]
    · rwa [Text.dropFront_eq_some_iff.mpr rfl]

theorem checkProject_eq_ok_iff {v : String} :
    checkProject v = .ok () ↔ isProjectId v.toList = true := by
  simp [checkProject]

theorem checkProject_eq_ok_iff_exists {v : String} :
    checkProject v = .ok () ↔
      ∃ id, IsDashed 6 30 id ∧ (v.toList = id ∨ v.toList = projectDomain ++ id) :=
  checkProject_eq_ok_iff.trans isProjectId_iff

end ImageFlow.ResourceName
