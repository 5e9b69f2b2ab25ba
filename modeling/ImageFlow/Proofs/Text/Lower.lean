import ImageFlow.Text.Case
import Mathlib.Data.List.Basic

/-!
# Texts in lower case

The case tables lead to small letters in one step: no character that they lead to has another
lower-case form, so the lower case of a text is its own lower case (`lower_lower`).  And they lead
to ASCII characters only from letters and to letters, so every other ASCII character is as often in
the lower case of a text as in the text (`count_lower`).
-/

namespace ImageFlow.Text

/-! ## The runs of the table -/

namespace CaseRun

variable {run other : CaseRun} {n : Nat}

theorem covers_iff :
    run.covers n = true ↔ run.first ≤ n ∧ n ≤ run.last ∧ (n - run.first) % run.step = 0 := by
  simp [covers, and_assoc]

/-- The least code point that the run leads to. -/
def lowest (run : CaseRun) : Nat :=
  (run.first + run.shift).toNat

/-- The greatest code point that the run leads to. -/
def highest (run : CaseRun) : Nat :=
  (run.last + run.shift).toNat

/-- The run leads to characters outside ASCII, or it leads one character to a small letter. -/
def LeadsAway (run : CaseRun) : Prop :=
  (128 ≤ run.lowest ∧ (run.highest < 0xD800 ∨ 0xE000 ≤ run.lowest ∧ run.highest < 0x110000)) ∨
    run.first = run.last ∧ 97 ≤ run.lowest ∧ run.lowest ≤ 122

instance (run : CaseRun) : Decidable run.LeadsAway :=
  inferInstanceAs (Decidable (_ ∨ _))

/-- Whether `other` covers no code point that `run` leads to: they lie apart, or `other` passes over
them with its steps of two. -/
def misses (run other : CaseRun) : Bool :=
  other.last.blt run.lowest || run.highest.blt other.first ||
    (run.first == run.last || run.step == 2) && other.step == 2 &&
      (run.lowest + other.first) % 2 == 1

theorem misses_iff :
    run.misses other = true ↔
      other.last < run.lowest ∨ run.highest < other.first ∨
        (run.first = run.last ∨ run.step = 2) ∧ other.step = 2 ∧
          (run.lowest + other.first) % 2 = 1 := by
  simp [misses, or_assoc, and_assoc]

theorem toNat_ofNat_of_isValidChar (h : n.isValidChar) : (Char.ofNat n).toNat = n := by
  rw [Char.ofNat, dif_pos h]
  rfl

/-- What a run leads to is a code point as far above the least one as the character that is led
there is above the first one. -/
theorem LeadsAway.toNat_ofNat (h : run.LeadsAway) (hn : run.covers n = true) :
    (Char.ofNat (n + run.shift).toNat).toNat + run.first = run.lowest + n := by
  rw [covers_iff] at hn
  unfold LeadsAway lowest highest at h
  have hvalid : (n + run.shift).toNat.isValidChar := by
    unfold Nat.isValidChar
    omega
  rw [toNat_ofNat_of_isValidChar hvalid, lowest]
  omega

theorem covers_eq_false_of_misses (h : run.misses other = true) (haway : run.LeadsAway)
    (hn : run.covers n = true) {m : Nat} (hm : m + run.first = run.lowest + n) :
    other.covers m = false := by
  rw [Bool.eq_false_iff, Ne, covers_iff]
  rw [covers_iff] at hn
  obtain ⟨hfirst, hlast, hstep⟩ := hn
  rintro ⟨hfirst', hlast', hstep'⟩
  have hhighest : run.highest + run.first = run.lowest + run.last := by
    unfold LeadsAway lowest highest at haway
    unfold lowest highest
    omega
  rcases misses_iff.mp h with hbelow | habove | ⟨hrun, hother, hodd⟩
  · omega
  · omega
  · rw [hother] at hstep'
    rcases hrun with hsingle | htwo
    · omega
    · rw [htwo] at hstep
      omega

theorem LeadsAway.cases (h : run.LeadsAway) {m : Nat} (hn : run.covers n = true)
    (hm : m + run.first = run.lowest + n) : 128 ≤ m ∨ 97 ≤ m ∧ m ≤ 122 := by
  rw [covers_iff] at hn
  rcases h with ⟨hascii, -⟩ | ⟨hsingle, hletter⟩
  · omega
  · omega

end CaseRun

/-- The one character with a lower-case form of two characters. -/
def dottedRun : CaseRun := ⟨304, 304, 1, 0⟩

/-- The runs of the table lead away from what the table covers. -/
theorem lowerRuns_lead_away :
    ∀ run ∈ CaseTable.lowerRuns, run.LeadsAway ∧ run.misses dottedRun = true ∧
      CaseTable.lowerRuns.all run.misses = true := by
  decide +kernel

/-! ## Characters -/

/-- A character that is its own lower case, its neighbours aside. -/
def IsLowered (c : Char) : Prop :=
  lowerChar c = [c]

instance (c : Char) : Decidable (IsLowered c) :=
  inferInstanceAs (Decidable (_ = _))

/-- A list is checked character by character, where a quantifier could be decided by going through
all characters there are. -/
theorem all_isLowered_iff {cs : List Char} :
    cs.all (IsLowered ·) = true ↔ ∀ c ∈ cs, IsLowered c := by
  simp only [List.all_eq_true, decide_eq_true_eq]

theorem IsLowered.ne_sigma {c : Char} (h : IsLowered c) : c ≠ 'Σ' := by
  rintro rfl
  exact absurd h (by decide)

/-- The ASCII characters lead to lowered ones; those that are led elsewhere are letters. -/
theorem isLowered_toLower_of_ascii {c : Char} (h : c.toNat < 128) :
    IsLowered c.toLower ∧
      (IsLowered c ∨ c.isAlpha = true ∧ c.toLower.isAlpha = true) := by
  have hall : ∀ n ∈ List.range 128, IsLowered (Char.ofNat n).toLower ∧
      (IsLowered (Char.ofNat n) ∨
        (Char.ofNat n).isAlpha = true ∧ (Char.ofNat n).toLower.isAlpha = true) := by
    decide +kernel
  have hc := hall c.toNat (List.mem_range.mpr h)
  rwa [Char.ofNat_toNat] at hc

theorem isLowered_of_smallLetter {c : Char} (h : 97 ≤ c.toNat ∧ c.toNat ≤ 122) :
    IsLowered c ∧ c.isAlpha = true := by
  have hall : ∀ n ∈ List.range' 97 26,
      IsLowered (Char.ofNat n) ∧ (Char.ofNat n).isAlpha = true := by
    decide +kernel
  have hc := hall c.toNat (List.mem_range'_1.mpr ⟨h.1, Nat.lt_succ_of_le h.2⟩)
  rwa [Char.ofNat_toNat] at hc

/-- What the table makes of a character: the two characters of the one long form, what a run leads
to, or the character itself. -/
theorem mem_tableCase_lower {c d : Char}
    (h : d ∈ tableCase CaseTable.lowerRuns CaseTable.lowerLong c) :
    d ∈ ['i', '\u0307'] ∨
      (∃ run ∈ CaseTable.lowerRuns, run.covers c.toNat = true ∧
        d = Char.ofNat (c.toNat + run.shift).toNat) ∨
      d = c ∧ tableCase CaseTable.lowerRuns CaseTable.lowerLong c = [c] := by
  cases hlong : CaseTable.lowerLong.find? (·.1 == c.toNat) with
  | some entry =>
      have hmem : entry = (304, [105, 775]) := by
        simpa [CaseTable.lowerLong] using List.mem_of_find?_eq_some hlong
      have hform : [105, 775].map Char.ofNat = ['i', '\u0307'] := by decide
      left
      simpa [tableCase, hlong, hmem, hform] using h
  | none =>
      cases hrun : CaseTable.lowerRuns.find? (·.covers c.toNat) with
      | some run =>
          have hcovers := List.find?_some hrun
          right; left
          refine ⟨run, List.mem_of_find?_eq_some hrun, hcovers, ?_⟩
          simpa [tableCase, hlong, hrun] using h
      | none =>
          have hself : tableCase CaseTable.lowerRuns CaseTable.lowerLong c = [c] := by
            simp only [tableCase, hlong, hrun]
          right; right
          rw [hself, List.mem_singleton] at h
          exact ⟨h, hself⟩

/-- A character that no entry of the tables is about is its own lower case. -/
theorem isLowered_of_uncovered {c : Char} (hascii : ¬c.toNat < 128) (hlong : c.toNat ≠ 304)
    (hruns : ∀ run ∈ CaseTable.lowerRuns, run.covers c.toNat = false) : IsLowered c := by
  have hfind : CaseTable.lowerLong.find? (·.1 == c.toNat) = none := by
    simpa [CaseTable.lowerLong] using hlong.symm
  have hrun : CaseTable.lowerRuns.find? (·.covers c.toNat) = none := by
    simpa using hruns
  rw [IsLowered, lowerChar, if_neg hascii, tableCase, hfind, hrun]

/-- What a run of the table leads to is its own lower case, and no ASCII character but a letter. -/
theorem isLowered_of_run {run : CaseRun} (hrun : run ∈ CaseTable.lowerRuns) {c d : Char}
    (hcovers : run.covers c.toNat = true) (hd : d = Char.ofNat (c.toNat + run.shift).toNat) :
    IsLowered d ∧ (d.toNat < 128 → d.isAlpha = true) := by
  obtain ⟨haway, hdotted, hmisses⟩ := lowerRuns_lead_away run hrun
  have hform : d.toNat + run.first = run.lowest + c.toNat := by
    rw [hd]
    exact haway.toNat_ofNat hcovers
  rcases haway.cases hcovers hform with hlarge | hletter
  · have hascii : ¬d.toNat < 128 := by omega
    refine ⟨isLowered_of_uncovered hascii ?_ ?_, fun hsmall => absurd hsmall hascii⟩
    · intro h
      have hcovered : dottedRun.covers d.toNat = true := by rw [h]; decide
      rw [CaseRun.covers_eq_false_of_misses hdotted haway hcovers hform] at hcovered
      cases hcovered
    · intro other hother
      have hother := List.all_eq_true.mp hmisses other hother
      exact CaseRun.covers_eq_false_of_misses hother haway hcovers hform
  · obtain ⟨hlowered, halpha⟩ := isLowered_of_smallLetter hletter
    exact ⟨hlowered, fun _ => halpha⟩

/-- Every character of a lower-case form is its own lower case.  If the character is not its own
form, no ASCII character but a letter is in the form. -/
theorem isLowered_of_mem_lowerChar {c d : Char} (h : d ∈ lowerChar c) :
    IsLowered d ∧ (IsLowered c ∨ (d.toNat < 128 → d.isAlpha = true)) := by
  by_cases hascii : c.toNat < 128
  · rw [lowerChar, if_pos hascii, List.mem_singleton] at h
    obtain ⟨hlowered, hc | ⟨-, halpha⟩⟩ := isLowered_toLower_of_ascii hascii
    · rw [h]
      exact ⟨hlowered, .inl hc⟩
    · rw [h]
      exact ⟨hlowered, .inr fun _ => halpha⟩
  · rw [lowerChar, if_neg hascii] at h
    rcases mem_tableCase_lower h with hlong | ⟨run, hrun, hcovers, hd⟩ | ⟨rfl, hself⟩
    · rw [List.mem_pair] at hlong
      rcases hlong with rfl | rfl
      · exact ⟨by decide, .inr fun _ => by decide⟩
      · exact ⟨by decide, .inr (by decide)⟩
    · have hrun := isLowered_of_run hrun hcovers hd
      exact ⟨hrun.1, .inr hrun.2⟩
    · have hd : IsLowered d := by rw [IsLowered, lowerChar, if_neg hascii, hself]
      exact ⟨hd, .inl hd⟩

/-! ## Texts -/

theorem isLowered_of_mem_lowerFrom {before cs : List Char} {d : Char}
    (h : d ∈ lowerFrom before cs) : IsLowered d := by
  induction cs generalizing before with
  | nil => cases h
  | cons c rest ih =>
      rw [lowerFrom, List.mem_append] at h
      rcases h with hfirst | hrest
      · by_cases hsigma : c = 'Σ'
        · rw [if_pos hsigma, List.mem_singleton] at hfirst
          rw [hfirst, smallSigma]
          split
          · decide
          · decide
        · rw [if_neg hsigma] at hfirst
          exact (isLowered_of_mem_lowerChar hfirst).1
      · exact ih hrest

/-- The lower case of a text begins with those of its characters that are lowered at its front. -/
theorem lowerFrom_append_of_isLowered {front : List Char} (h : ∀ c ∈ front, IsLowered c)
    (before rest : List Char) :
    lowerFrom before (front ++ rest) = front ++ lowerFrom (front.reverse ++ before) rest := by
  induction front generalizing before with
  | nil => rfl
  | cons c front ih =>
      obtain ⟨hc, hfront⟩ := List.forall_mem_cons.mp h
      have hform : lowerChar c = [c] := hc
      rw [List.cons_append, lowerFrom, if_neg hc.ne_sigma, hform, ih hfront]
      simp

theorem lowerFrom_of_isLowered {cs : List Char} (h : ∀ c ∈ cs, IsLowered c)
    (before : List Char) : lowerFrom before cs = cs := by
  simpa [lowerFrom] using lowerFrom_append_of_isLowered h before []

/-- Lower-casing twice is lower-casing once. -/
@[simp]
theorem lower_lower (s : String) : lower (lower s) = lower s := by
  have hlowered : ∀ c ∈ lowerFrom [] s.toList, IsLowered c :=
    fun c hc => isLowered_of_mem_lowerFrom hc
  rw [lower, lower, String.toList_ofList, lowerFrom_of_isLowered hlowered]

/-- An ASCII character that is no letter. -/
def IsPlain (c : Char) : Prop :=
  c.toNat < 128 ∧ c.isAlpha = false

instance (c : Char) : Decidable (IsPlain c) :=
  inferInstanceAs (Decidable (_ ∧ _))

theorem IsPlain.isLowered {c : Char} (h : IsPlain c) : IsLowered c := by
  apply (isLowered_toLower_of_ascii h.1).2.resolve_right
  rintro ⟨halpha, -⟩
  rw [h.2] at halpha
  cases halpha

theorem count_lowerChar {d : Char} (hd : IsPlain d) (c : Char) :
    (lowerChar c).count d = [c].count d := by
  by_cases hc : IsLowered c
  · exact congrArg (List.count d) hc
  · have hform : d ∉ lowerChar c := by
      intro hmem
      have halpha := (isLowered_of_mem_lowerChar hmem).2.resolve_left hc hd.1
      rw [hd.2] at halpha
      cases halpha
    have hne : d ∉ [c] := by
      rw [List.mem_singleton]
      rintro rfl
      exact hc hd.isLowered
    rw [List.count_eq_zero_of_not_mem hform, List.count_eq_zero_of_not_mem hne]

theorem count_lowerFrom {d : Char} (hd : IsPlain d) (before cs : List Char) :
    (lowerFrom before cs).count d = cs.count d := by
  induction cs generalizing before with
  | nil => rfl
  | cons c rest ih =>
      have hfirst : (if c = 'Σ' then [smallSigma before rest] else lowerChar c).count d =
          [c].count d := by
        by_cases hsigma : c = 'Σ'
        · have hne : ∀ x : Char, ¬x.toNat < 128 → x ≠ d := by
            rintro x hx rfl
            exact hx hd.1
          have hsmall : smallSigma before rest ≠ d := by
            rw [smallSigma]
            split
            · exact hne 'ς' (by decide)
            · exact hne 'σ' (by decide)
          rw [if_pos hsigma, hsigma, List.count_singleton, List.count_singleton,
            beq_false_of_ne hsmall, beq_false_of_ne (hne 'Σ' (by decide))]
        · rw [if_neg hsigma, count_lowerChar hd]
      rw [lowerFrom, List.count_append, hfirst, ih, ← List.count_append, List.singleton_append]

/-- An ASCII character that is no letter is as often in the lower case of a text as in the text. -/
theorem count_lower {d : Char} (hd : IsPlain d) (s : String) :
    (lower s).toList.count d = s.toList.count d := by
  rw [lower, String.toList_ofList, count_lowerFrom hd]

theorem mem_lower_iff {d : Char} (hd : IsPlain d) {s : String} :
    d ∈ (lower s).toList ↔ d ∈ s.toList := by
  rw [← List.count_pos_iff, count_lower hd, List.count_pos_iff]

end ImageFlow.Text
