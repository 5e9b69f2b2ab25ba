import ImageFlow.Data.OrderedMap

/-!
# Maps built from lists of pairs

What a look-up in `OrderedMap.ofList` and `OrderedMap.insertAll` finds.  A later pair of a key wins
over an earlier one, so the pairs of two lists put after each other are looked up in the second list
first, and a map laid over another one is looked up first.
-/

namespace ImageFlow

variable {α : Type}

namespace Entries

instance decidableSorted (entries : List (String × α)) : Decidable (Sorted entries) :=
  inferInstanceAs (Decidable (entries.Pairwise fun a b => a.1 < b.1))

theorem mem_of_get?_eq_some {key : String} {value : α} {entries : List (String × α)}
    (h : get? key entries = some value) : (key, value) ∈ entries := by
  induction entries with
  | nil => simp [get?] at h
  | cons entry rest ih =>
    obtain ⟨k, v⟩ := entry
    by_cases hk : key = k
    · simp_all [get?]
    · exact List.mem_cons_of_mem _ (ih (by simpa [get?, hk] using h))

theorem get?_eq_none_iff {key : String} {entries : List (String × α)} :
    get? key entries = none ↔ key ∉ entries.map (·.1) := by
  induction entries with
  | nil => simp [get?]
  | cons entry rest ih =>
    by_cases hk : key = entry.1 <;> simp [get?, hk, ih]

/-- The values may be changed before or after the look-up. -/
theorem get?_map {β : Type} (f : α → β) (key : String) (entries : List (String × α)) :
    get? key (entries.map fun entry => (entry.1, f entry.2)) = (get? key entries).map f := by
  induction entries with
  | nil => rfl
  | cons entry rest ih =>
    by_cases hk : key = entry.1 <;> simp [get?, hk, ih]

theorem Sorted.map {β : Type} {entries : List (String × α)} (h : Sorted entries) (f : α → β) :
    Sorted (entries.map fun entry => (entry.1, f entry.2)) :=
  List.pairwise_map.2 h

/-- Only the keys decide whether entries are in order. -/
theorem Sorted.of_keys_eq {β : Type} {entries : List (String × α)} {others : List (String × β)}
    (h : Sorted entries) (heq : entries.map (·.1) = others.map (·.1)) : Sorted others := by
  have hkeys : (entries.map (·.1)).Pairwise (· < ·) := List.pairwise_map.2 h
  exact List.pairwise_map.1 (heq ▸ hkeys)

theorem Sorted.nodup_keys {entries : List (String × α)} (h : Sorted entries) :
    (entries.map (·.1)).Nodup := by
  refine List.pairwise_map.2 (h.imp ?_)
  intro first second hlt heq
  exact String.lt_irrefl _ (heq ▸ hlt)

theorem get?_filter (keys : List String) (key : String) (entries : List (String × α)) :
    get? key (entries.filter (·.1 ∈ keys)) = if key ∈ keys then get? key entries else none := by
  induction entries with
  | nil => simp [get?]
  | cons entry rest ih =>
    by_cases hkept : entry.1 ∈ keys
    · by_cases hk : key = entry.1
      · simp [get?, hk, hkept]
      · simp [get?, hk, hkept, ih]
    · have hother : key ∈ keys → key ≠ entry.1 := by
        rintro hkey rfl
        exact hkept hkey
      by_cases hkey : key ∈ keys
      · simp [get?, hkept, ih, hkey, hother hkey]
      · simp [hkept, ih, hkey]

theorem get?_eq_some_of_mem {key : String} {value : α} {entries : List (String × α)}
    (h : Sorted entries) (hmem : (key, value) ∈ entries) : get? key entries = some value := by
  induction entries with
  | nil => cases hmem
  | cons entry rest ih =>
    obtain ⟨hfirst, hrest⟩ := List.pairwise_cons.1 h
    rcases List.mem_cons.1 hmem with rfl | hlater
    · simp [get?]
    · have hlt : entry.1 < key := hfirst _ hlater
      have hne : key ≠ entry.1 := fun heq => String.lt_irrefl _ (heq ▸ hlt)
      simpa [get?, hne] using ih hrest hlater

end Entries

namespace OrderedMap

theorem isEmpty_iff {m : OrderedMap α} : m.isEmpty = true ↔ m = ∅ := by
  constructor
  · intro h
    obtain ⟨entries, _⟩ := m
    obtain rfl : entries = [] := List.isEmpty_iff.1 h
    rfl
  · rintro rfl
    rfl

theorem get?_insertAll (m : OrderedMap α) (pairs : List (String × α)) (key : String) :
    (m.insertAll pairs).get? key = ((ofList pairs).get? key).or (m.get? key) := by
  induction pairs generalizing m with
  | nil => rfl
  | cons pair rest ih =>
    have hrest : ∀ start : OrderedMap α,
        (start.insertAll (pair :: rest)) = (start.insert pair.1 pair.2).insertAll rest :=
      fun _ => rfl
    rw [ofList, hrest, hrest, ih, ih (insert ∅ _ _), Option.or_assoc]
    congr 1
    by_cases hkey : key = pair.1 <;> simp [get?_insert, hkey]

@[simp]
theorem get?_ofList_nil (key : String) : (ofList ([] : List (String × α))).get? key = none := rfl

@[simp]
theorem get?_ofList_append (first second : List (String × α)) (key : String) :
    (ofList (first ++ second)).get? key = ((ofList second).get? key).or ((ofList first).get? key) := by
  rw [ofList, insertAll, List.foldl_append]
  exact get?_insertAll (ofList first) second key

@[simp]
theorem get?_ofList_cons (pair : String × α) (rest : List (String × α)) (key : String) :
    (ofList (pair :: rest)).get? key =
      ((ofList rest).get? key).or (if key = pair.1 then some pair.2 else none) := by
  rw [ofList, insertAll, List.foldl_cons]
  refine (get?_insertAll _ rest key).trans ?_
  rw [get?_insert, get?_empty]

/-- A list with one pair for every key is looked up as it stands. -/
theorem get?_ofList_of_nodup {pairs : List (String × α)} (h : (pairs.map (·.1)).Nodup)
    (key : String) : (ofList pairs).get? key = Entries.get? key pairs := by
  induction pairs with
  | nil => rfl
  | cons pair rest ih =>
    obtain ⟨hnew, hrest⟩ := List.nodup_cons.1 h
    rw [get?_ofList_cons, ih hrest]
    by_cases hkey : key = pair.1
    · rw [hkey, Entries.get?_eq_none_iff.2 hnew]
      simp [Entries.get?]
    · simp [Entries.get?, hkey]

/-- A map is built again from its own entries. -/
@[simp]
theorem ofList_entries (m : OrderedMap α) : ofList m.entries = m :=
  ext_get? (get?_ofList_of_nodup m.sorted.nodup_keys)

theorem get?_overlay (top base : OrderedMap α) (key : String) :
    (top.overlay base).get? key = (top.get? key).or (base.get? key) := by
  rw [overlay, get?_insertAll, ofList_entries]

theorem overlay_overlay (top base : OrderedMap α) :
    top.overlay (top.overlay base) = top.overlay base := by
  apply ext_get?
  intro key
  rw [get?_overlay, get?_overlay, ← Option.or_assoc, Option.or_self]

/-- The entries whose keys are among these. -/
def restrict (m : OrderedMap α) (keys : List String) : OrderedMap α :=
  ⟨m.entries.filter (·.1 ∈ keys), m.sorted.filter _⟩

theorem get?_restrict (m : OrderedMap α) (keys : List String) (key : String) :
    (m.restrict keys).get? key = if key ∈ keys then m.get? key else none :=
  Entries.get?_filter keys key m.entries

@[simp]
theorem restrict_nil (m : OrderedMap α) : m.restrict [] = ∅ := by
  apply ext_get?
  simp [get?_restrict]

theorem entries_ofList {pairs : List (String × α)} (h : Entries.Sorted pairs) :
    (ofList pairs).entries = pairs :=
  congrArg entries (ofList_entries ⟨pairs, h⟩)

theorem mem_pairs_of_mem_entries {pairs : List (String × α)} {entry : String × α}
    (h : entry ∈ (ofList pairs).entries) : entry ∈ pairs := by
  suffices ∀ m : OrderedMap α, entry ∈ (m.insertAll pairs).entries →
      entry ∈ m.entries ∨ entry ∈ pairs by
    exact (this ∅ h).resolve_left List.not_mem_nil
  clear h
  induction pairs with
  | nil => exact fun _ hmem => .inl hmem
  | cons pair rest ih =>
    intro m hmem
    rcases ih (m.insert pair.1 pair.2) hmem with hin | hin
    · rcases Entries.mem_insert hin with rfl | hold
      · exact .inr List.mem_cons_self
      · exact .inl hold
    · exact .inr (List.mem_cons_of_mem _ hin)

end OrderedMap

end ImageFlow
