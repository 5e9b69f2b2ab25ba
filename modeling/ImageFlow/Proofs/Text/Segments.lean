/-!
# The segments of a path

A path is its segments with slashes between them.  Taking a path apart and putting segments
together undo each other as long as no segment has a slash.  Since slashes can be counted, it is
enough that the segments of one of two equal paths have none: if there are as many on both sides,
they are the same (`eq_of_intercalate_eq`).  In the same way a text is cut at one place only by a
separator with a given number of separators behind it (`append_cons_inj_of_count`).
-/

namespace ImageFlow.Text

/-- The text has no slash. -/
def SlashFree (s : String) : Prop :=
  '/' ∉ s.toList

instance (s : String) : Decidable (SlashFree s) :=
  inferInstanceAs (Decidable (¬ '/' ∈ s.toList))

/-- The parts of a path between its slashes. -/
def segments (path : String) : List String :=
  (path.toList.splitOn '/').map String.ofList

/-- No part of a split has the separator in it. -/
theorem not_mem_of_mem_splitOn {sep : Char} {cs part : List Char} (h : part ∈ cs.splitOn sep) :
    sep ∉ part := by
  induction cs generalizing part with
  | nil =>
      simp only [List.splitOn_nil, List.mem_singleton] at h
      simp [h]
  | cons c cs ih =>
      obtain ⟨first, others, hcs⟩ := List.exists_cons_of_ne_nil (List.splitOn_ne_nil sep cs)
      rw [hcs] at ih
      rw [List.splitOn_cons_eq_if_modifyHead, hcs] at h
      by_cases hc : c = sep
      · simp only [hc, beq_self_eq_true, if_true, List.mem_cons] at h
        rcases h with rfl | h
        · simp
        · exact ih (List.mem_cons.mpr h)
      · simp only [beq_eq_false_iff_ne.mpr hc, Bool.false_eq_true, if_false,
          List.modifyHead_cons, List.mem_cons] at h
        rcases h with rfl | h
        · have hfirst : sep ∉ first := ih List.mem_cons_self
          simp [Ne.symm hc, hfirst]
        · exact ih (List.mem_cons_of_mem _ h)

theorem slashFree_of_mem_segments {path s : String} (h : s ∈ segments path) : SlashFree s := by
  obtain ⟨part, hpart, rfl⟩ := List.mem_map.mp h
  simpa [SlashFree] using not_mem_of_mem_splitOn hpart

theorem intercalate_segments (path : String) : "/".intercalate (segments path) = path := by
  apply String.toList_injective
  rw [String.toList_intercalate, segments, List.map_map]
  simp only [Function.comp_def, String.toList_ofList, List.map_id']
  exact List.intercalate_splitOn '/'

theorem segments_intercalate {parts : List String} (hne : parts ≠ [])
    (hfree : ∀ s ∈ parts, SlashFree s) : segments ("/".intercalate parts) = parts := by
  have hsplit : (['/'].intercalate (parts.map String.toList)).splitOn '/' =
      parts.map String.toList :=
    List.splitOn_intercalate '/' (by simpa [SlashFree] using hfree) (by simpa using hne)
  rw [segments, String.toList_intercalate]
  simp [hsplit, Function.comp_def]

/-- A path has a slash between any two segments, and those in the segments. -/
theorem count_slash_intercalate {parts : List String} (hne : parts ≠ []) :
    ("/".intercalate parts).toList.count '/' + 1 =
      parts.length + (parts.flatMap String.toList).count '/' := by
  induction parts with
  | nil => exact absurd rfl hne
  | cons s rest ih =>
      cases rest with
      | nil => simp [Nat.add_comm]
      | cons t rest =>
          have ih := ih (List.cons_ne_nil t rest)
          rw [List.flatMap_cons, List.count_append]
          simp only [String.intercalate_cons_cons, String.toList_append, List.count_append,
            List.length_cons] at ih ⊢
          have hslash : "/".toList.count '/' = 1 := by decide
          omega

/-- Equal paths of equally many segments have the same segments, if those of one path have no
slash. -/
theorem eq_of_intercalate_eq {parts others : List String} (hne : others ≠ [])
    (hlength : parts.length = others.length) (hfree : ∀ s ∈ others, SlashFree s)
    (h : "/".intercalate parts = "/".intercalate others) : parts = others := by
  have hparts : parts ≠ [] := by
    rintro rfl
    exact hne (List.length_eq_zero_iff.mp hlength.symm)
  -- The slashes of the second path all stand between segments, so those of the first one do.
  have hcount : (parts.flatMap String.toList).count '/' = 0 := by
    have hzero : (others.flatMap String.toList).count '/' = 0 := by
      simpa [SlashFree, List.count_eq_zero] using hfree
    have h₁ := count_slash_intercalate hparts
    have h₂ := count_slash_intercalate hne
    rw [h] at h₁
    omega
  have hpartsFree : ∀ s ∈ parts, SlashFree s := by
    simpa [SlashFree, List.count_eq_zero] using hcount
  rw [← segments_intercalate hparts hpartsFree, h, segments_intercalate hne hfree]

theorem eq_nil_of_count_eq {α : Type} [BEq α] [LawfulBEq α] {sep : α} {between back back' : List α}
    (hcount : back.count sep = back'.count sep) (h : sep :: back = between ++ sep :: back') :
    between = [] := by
  cases between with
  | nil => rfl
  | cons first between =>
      rw [List.cons_append, List.cons.injEq] at h
      rw [h.2, List.count_append, List.count_cons_self] at hcount
      omega

/-- Equal lists that are cut at a separator, with as many separators behind it, are cut at the same
place. -/
theorem append_cons_inj_of_count {α : Type} [BEq α] [LawfulBEq α] {sep : α}
    {front front' back back' : List α} (hcount : back.count sep = back'.count sep)
    (h : front ++ sep :: back = front' ++ sep :: back') : front = front' ∧ back = back' := by
  have hfront : front = front' := by
    rcases List.append_eq_append_iff.mp h with ⟨between, rfl, hback⟩ | ⟨between, rfl, hback⟩
    · rw [eq_nil_of_count_eq hcount hback, List.append_nil]
    · rw [eq_nil_of_count_eq hcount.symm hback, List.append_nil]
  rw [hfront] at h
  exact ⟨hfront, (List.cons.inj (List.append_cancel_left h)).2⟩

end ImageFlow.Text
