/-!
# Maps in key order

A finite map from texts to values, kept as its entries in strictly increasing key order, so two
maps with the same look-ups are the same map (`OrderedMap.ext_get?`).  Keys are ordered by code
point, which is also the order of their UTF-8 bytes.  The operations on bare entry lists are
here too, for the places where a map holds values of a type that is still being defined.
-/

namespace ImageFlow

namespace Entries

variable {α : Type}

/-- The keys of the entries increase strictly. -/
def Sorted (entries : List (String × α)) : Prop :=
  entries.Pairwise fun a b => a.1 < b.1

/-- Puts a value under a key, replacing what was there, and keeps the order. -/
def insert (key : String) (value : α) : List (String × α) → List (String × α)
  | [] => [(key, value)]
  | (k, v) :: rest =>
    if key = k then (key, value) :: rest
    else if key < k then (key, value) :: (k, v) :: rest
    else (k, v) :: insert key value rest

def get? (key : String) : List (String × α) → Option α
  | [] => none
  | (k, v) :: rest => if key = k then some v else get? key rest

theorem get?_insert_self (key : String) (value : α) (entries : List (String × α)) :
    get? key (insert key value entries) = some value := by
  induction entries with
  | nil => simp [insert, get?]
  | cons entry rest ih =>
    obtain ⟨k, v⟩ := entry
    by_cases hk : key = k
    · simp [insert, get?, hk]
    · by_cases hlt : key < k <;> simp [insert, get?, hk, hlt, ih]

theorem get?_insert_of_ne {key other : String} (h : other ≠ key) (value : α)
    (entries : List (String × α)) :
    get? other (insert key value entries) = get? other entries := by
  induction entries with
  | nil => simp [insert, get?, h]
  | cons entry rest ih =>
    obtain ⟨k, v⟩ := entry
    by_cases hk : key = k
    · subst hk
      simp [insert, get?, h]
    · by_cases hlt : key < k <;> simp [insert, get?, hk, hlt, h, ih]

theorem mem_insert {key : String} {value : α} {entries : List (String × α)}
    {entry : String × α} (h : entry ∈ insert key value entries) :
    entry = (key, value) ∨ entry ∈ entries := by
  induction entries with
  | nil => simpa [insert] using h
  | cons head rest ih =>
    obtain ⟨k, v⟩ := head
    by_cases hk : key = k
    · simp only [insert, hk, if_true, List.mem_cons] at h
      rcases h with h | h
      · exact Or.inl (by rw [h, hk])
      · exact Or.inr (List.mem_cons_of_mem _ h)
    · by_cases hlt : key < k
      · simp only [insert, hk, hlt, if_true, if_false, List.mem_cons] at h
        simpa using h
      · simp only [insert, hk, hlt, if_false, List.mem_cons] at h
        rcases h with h | h
        · exact Or.inr (by simp [h])
        · rcases ih h with h | h
          · exact Or.inl h
          · exact Or.inr (List.mem_cons_of_mem _ h)

theorem lt_of_not_le {a b : String} (hne : a ≠ b) (hnlt : ¬a < b) : b < a := by
  rcases Decidable.em (b < a) with h | h
  · exact h
  · exact absurd (String.le_antisymm (String.not_lt.1 h) (String.not_lt.1 hnlt)) hne

theorem sorted_insert {entries : List (String × α)} (h : Sorted entries) (key : String)
    (value : α) : Sorted (insert key value entries) := by
  induction entries with
  | nil => simp [insert, Sorted]
  | cons head rest ih =>
    obtain ⟨k, v⟩ := head
    obtain ⟨hhead, hrest⟩ := List.pairwise_cons.1 h
    by_cases hk : key = k
    · subst hk
      simp only [insert, if_true]
      exact List.pairwise_cons.2 ⟨fun entry hentry => hhead entry hentry, hrest⟩
    · by_cases hlt : key < k
      · simp only [insert, hk, hlt, if_true, if_false]
        refine List.pairwise_cons.2 ⟨?_, h⟩
        intro entry hentry
        rcases List.mem_cons.1 hentry with rfl | hmem
        · exact hlt
        · exact String.lt_trans hlt (hhead _ hmem)
      · simp only [insert, hk, hlt, if_false]
        refine List.pairwise_cons.2 ⟨?_, ih hrest⟩
        intro entry hentry
        rcases mem_insert hentry with rfl | hmem
        · exact lt_of_not_le hk hlt
        · exact hhead _ hmem

theorem get?_eq_none_of_lt {key : String} {entries : List (String × α)}
    (h : ∀ entry ∈ entries, key < entry.1) : get? key entries = none := by
  induction entries with
  | nil => rfl
  | cons head rest ih =>
    obtain ⟨k, v⟩ := head
    have hk : key < k := h _ List.mem_cons_self
    have hne : key ≠ k := by
      rintro rfl
      exact String.lt_irrefl _ hk
    simp [get?, hne, ih fun e he => h e (List.mem_cons_of_mem _ he)]

/-- In a sorted list the look-ups determine the entries. -/
theorem eq_of_get?_eq {a b : List (String × α)} (ha : Sorted a) (hb : Sorted b)
    (h : ∀ key, get? key a = get? key b) : a = b := by
  induction a generalizing b with
  | nil =>
    cases b with
    | nil => rfl
    | cons head rest =>
      have := h head.1
      simp [get?] at this
  | cons x xs ih =>
    obtain ⟨hx, hxs⟩ := List.pairwise_cons.1 ha
    cases b with
    | nil =>
      have := h x.1
      simp [get?] at this
    | cons y ys =>
      obtain ⟨hy, hys⟩ := List.pairwise_cons.1 hb
      obtain ⟨kx, vx⟩ := x
      obtain ⟨ky, vy⟩ := y
      have hkey : kx = ky := by
        rcases Decidable.em (kx = ky) with heq | hne
        · exact heq
        rcases Decidable.em (kx < ky) with hlt | hnlt
        · have hnone : get? kx ((ky, vy) :: ys) = none := by
            apply get?_eq_none_of_lt
            intro entry hentry
            rcases List.mem_cons.1 hentry with rfl | hmem
            · exact hlt
            · exact String.lt_trans hlt (hy _ hmem)
          have := h kx
          rw [hnone] at this
          simp [get?] at this
        · have hgt := lt_of_not_le hne hnlt
          have hnone : get? ky ((kx, vx) :: xs) = none := by
            apply get?_eq_none_of_lt
            intro entry hentry
            rcases List.mem_cons.1 hentry with rfl | hmem
            · exact hgt
            · exact String.lt_trans hgt (hx _ hmem)
          have := h ky
          rw [hnone] at this
          simp [get?] at this
      subst hkey
      have hvalue : vx = vy := by
        have := h kx
        simpa [get?] using this
      subst hvalue
      have hrest : xs = ys := by
        refine ih hxs hys fun key => ?_
        rcases Decidable.em (key = kx) with rfl | hne
        · rw [get?_eq_none_of_lt fun e he => hx e he, get?_eq_none_of_lt fun e he => hy e he]
        · have := h key
          simpa [get?, hne] using this
      rw [hrest]

end Entries

/-- A finite map from texts to values, as its entries in key order. -/
structure OrderedMap (α : Type) where
  entries : List (String × α)
  sorted : Entries.Sorted entries
  deriving DecidableEq

namespace OrderedMap

variable {α : Type}

def empty : OrderedMap α :=
  ⟨[], List.Pairwise.nil⟩

instance : EmptyCollection (OrderedMap α) := ⟨empty⟩

instance : Inhabited (OrderedMap α) := ⟨empty⟩

/-- The value under a key. -/
def get? (m : OrderedMap α) (key : String) : Option α :=
  Entries.get? key m.entries

/-- Puts a value under a key, replacing what was there. -/
def insert (m : OrderedMap α) (key : String) (value : α) : OrderedMap α :=
  ⟨Entries.insert key value m.entries, Entries.sorted_insert m.sorted key value⟩

/-- Puts pairs into the map, first to last, so the last pair of a key stays. -/
def insertAll (m : OrderedMap α) (pairs : List (String × α)) : OrderedMap α :=
  pairs.foldl (fun acc pair => acc.insert pair.1 pair.2) m

/-- The map of a list of pairs, in which the last pair of a key counts. -/
def ofList (pairs : List (String × α)) : OrderedMap α :=
  (∅ : OrderedMap α).insertAll pairs

/-- One map laid over another: the entries of `top` win. -/
def overlay (top base : OrderedMap α) : OrderedMap α :=
  base.insertAll top.entries

def isEmpty (m : OrderedMap α) : Bool :=
  m.entries.isEmpty

/-- Maps with the same look-ups are equal. -/
theorem ext_get? {a b : OrderedMap α} (h : ∀ key, a.get? key = b.get? key) : a = b := by
  obtain ⟨entriesA, sortedA⟩ := a
  obtain ⟨entriesB, sortedB⟩ := b
  have : entriesA = entriesB := Entries.eq_of_get?_eq sortedA sortedB h
  subst this
  rfl

@[simp]
theorem get?_empty (key : String) : (∅ : OrderedMap α).get? key = none := rfl

/-- A look-up after an insertion sees the new value under its key and the old map elsewhere. -/
theorem get?_insert (m : OrderedMap α) (key other : String) (value : α) :
    (m.insert key value).get? other = if other = key then some value else m.get? other := by
  by_cases h : other = key
  · subst h
    simpa [insert, get?] using Entries.get?_insert_self other value m.entries
  · simpa [insert, get?, h] using Entries.get?_insert_of_ne h value m.entries

end OrderedMap

end ImageFlow
