import ImageFlow.Proofs.Text.Lower
import ImageFlow.Proofs.Text.Segments

/-!
# Lower case part by part

When a text is lower-cased, only a capital sigma looks at its neighbours, and it looks no further
than the nearest one that counts.  A separator that counts and is no letter therefore cuts a text
into parts that are lower-cased on their own (`splitOn_lowerFrom`).  And since the case of a
neighbour makes no difference, texts that differ only in the case of ASCII letters have one lower
case (`lowerFrom_map_toLower`).
-/

namespace ImageFlow.Text

/-! ## Separators -/

/-- A character at which a capital sigma stops looking for letters: it counts and has no case. -/
def EndsWord (c : Char) : Prop :=
  isCaseIgnorable c = false ∧ inRanges CaseTable.casedRanges c = false

instance (c : Char) : Decidable (EndsWord c) :=
  inferInstanceAs (Decidable (_ ∧ _))

section Separator

variable {sep : Char}

theorem startsCased_append_of_endsWord (hends : EndsWord sep) (cs rest : List Char) :
    startsCased (cs ++ sep :: rest) = startsCased cs := by
  rw [startsCased, startsCased, List.dropWhile_append]
  cases hdropped : cs.dropWhile isCaseIgnorable with
  | nil => simp [hends.1, hends.2]
  | cons c others => simp

/-- What stands before a separator makes no difference behind it. -/
theorem lowerFrom_of_endsWord (hends : EndsWord sep) (before other cs : List Char) :
    lowerFrom (before ++ sep :: other) cs = lowerFrom before cs := by
  induction cs generalizing before with
  | nil => rfl
  | cons c rest ih =>
      have hrest := ih (c :: before)
      rw [List.cons_append] at hrest
      rw [lowerFrom, lowerFrom, smallSigma, smallSigma, startsCased_append_of_endsWord hends, hrest]

/-- A separator cuts the lower case of a text. -/
theorem lowerFrom_append_cons (hplain : IsPlain sep) (hends : EndsWord sep)
    (before cs rest : List Char) :
    lowerFrom before (cs ++ sep :: rest) = lowerFrom before cs ++ sep :: lowerFrom [] rest := by
  induction cs generalizing before with
  | nil =>
      have hsep : lowerChar sep = [sep] := hplain.isLowered
      have hrest : lowerFrom (sep :: before) rest = lowerFrom [] rest :=
        lowerFrom_of_endsWord hends [] before rest
      rw [List.nil_append, lowerFrom.eq_2, if_neg hplain.isLowered.ne_sigma, hsep, hrest]
      rfl
  | cons c cs ih =>
      rw [List.cons_append, lowerFrom, lowerFrom, smallSigma, smallSigma,
        startsCased_append_of_endsWord hends, ih, List.append_assoc]

theorem lowerFrom_intercalate (hplain : IsPlain sep) (hends : EndsWord sep)
    (parts : List (List Char)) :
    lowerFrom [] ([sep].intercalate parts) = [sep].intercalate (parts.map (lowerFrom [])) := by
  induction parts with
  | nil => rfl
  | cons part rest ih =>
      cases rest with
      | nil => simp
      | cons next rest =>
          rw [List.intercalate_cons_cons, List.append_assoc, List.singleton_append,
            lowerFrom_append_cons hplain hends, ih]
          simp [List.intercalate_cons_cons]

/-- The parts of the lower case of a text are the lower cases of its parts. -/
theorem splitOn_lowerFrom (hplain : IsPlain sep) (hends : EndsWord sep) (cs : List Char) :
    (lowerFrom [] cs).splitOn sep = (cs.splitOn sep).map (lowerFrom []) := by
  have hfree : ∀ part ∈ (cs.splitOn sep).map (lowerFrom []), sep ∉ part := by
    intro lowered hlowered
    obtain ⟨part, hpart, rfl⟩ := List.mem_map.mp hlowered
    rw [← List.count_eq_zero, count_lowerFrom hplain, List.count_eq_zero]
    exact not_mem_of_mem_splitOn hpart
  have hne : (cs.splitOn sep).map (lowerFrom []) ≠ [] := by
    simp [List.splitOn_ne_nil]
  calc
    (lowerFrom [] cs).splitOn sep
        = (lowerFrom [] ([sep].intercalate (cs.splitOn sep))).splitOn sep := by
      rw [List.intercalate_splitOn]
    _ = ([sep].intercalate ((cs.splitOn sep).map (lowerFrom []))).splitOn sep := by
      rw [lowerFrom_intercalate hplain hends]
    _ = (cs.splitOn sep).map (lowerFrom []) := List.splitOn_intercalate sep hfree hne

end Separator

/-! ## The case of ASCII letters -/

/-- A character is told from its ASCII lower case neither by its own lower case nor by what a
capital sigma looks for. -/
structure SameInLowerCase (c d : Char) : Prop where
  sigma : c = 'Σ' ↔ d = 'Σ'
  lower : lowerChar c = lowerChar d
  ignorable : isCaseIgnorable c = isCaseIgnorable d
  cased : inRanges CaseTable.casedRanges c = inRanges CaseTable.casedRanges d

theorem sameInLowerCase_toLower (c : Char) : SameInLowerCase c.toLower c := by
  by_cases hcapital : 'A'.val ≤ c.val ∧ c.val ≤ 'Z'.val
  · have hall : ∀ n ∈ List.range' 65 26,
        ((Char.ofNat n).toLower = 'Σ' ↔ Char.ofNat n = 'Σ') ∧
          lowerChar (Char.ofNat n).toLower = lowerChar (Char.ofNat n) ∧
          isCaseIgnorable (Char.ofNat n).toLower = isCaseIgnorable (Char.ofNat n) ∧
          inRanges CaseTable.casedRanges (Char.ofNat n).toLower =
            inRanges CaseTable.casedRanges (Char.ofNat n) := by
      decide +kernel
    have hfirst : 65 ≤ c.toNat := UInt32.le_iff_toNat_le.mp hcapital.1
    have hlast : c.toNat ≤ 90 := UInt32.le_iff_toNat_le.mp hcapital.2
    have hc := hall c.toNat (List.mem_range'_1.mpr ⟨hfirst, Nat.lt_succ_of_le hlast⟩)
    rw [Char.ofNat_toNat] at hc
    obtain ⟨hsigma, hlower, hignorable, hcased⟩ := hc
    exact ⟨hsigma, hlower, hignorable, hcased⟩
  · have hself : c.toLower = c := dif_neg hcapital
    rw [hself]
    exact ⟨Iff.rfl, rfl, rfl, rfl⟩

theorem startsCased_map_toLower (cs : List Char) :
    startsCased (cs.map Char.toLower) = startsCased cs := by
  induction cs with
  | nil => rfl
  | cons c rest ih =>
      have hc := sameInLowerCase_toLower c
      rw [startsCased, startsCased, List.map_cons, List.dropWhile_cons, List.dropWhile_cons,
        hc.ignorable]
      by_cases hignorable : isCaseIgnorable c = true
      · rw [if_pos hignorable, if_pos hignorable]
        exact ih
      · rw [if_neg hignorable, if_neg hignorable]
        exact hc.cased

/-- Texts that differ only in the case of ASCII letters have the same lower case. -/
theorem lowerFrom_map_toLower (before cs : List Char) :
    lowerFrom (before.map Char.toLower) (cs.map Char.toLower) = lowerFrom before cs := by
  induction cs generalizing before with
  | nil => rfl
  | cons c rest ih =>
      have hc := sameInLowerCase_toLower c
      have hrest := ih (c :: before)
      rw [List.map_cons] at hrest
      rw [List.map_cons, lowerFrom, lowerFrom, hrest, hc.lower, smallSigma, smallSigma,
        startsCased_map_toLower, startsCased_map_toLower]
      simp only [hc.sigma]

end ImageFlow.Text
