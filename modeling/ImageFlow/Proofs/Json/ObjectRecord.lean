import ImageFlow.Proofs.Json.Record

/-!
# Records that are read from an object

An object is taken in as a record exactly if it ends where it should, gives each field once, or not
at all where a field may be left out, and has no other member that cannot be passed over.  What was
taken in is then determined: each field is what its member says (`takeObject_ignore_eq_ok_iff`).
-/

namespace ImageFlow

/-! ## The values under a key -/

namespace Entries

variable {α : Type} {key : String} {entries : List (String × α)}

/-- All values under a key, in order. -/
def valuesAt (key : String) (entries : List (String × α)) : List α :=
  (entries.filter (·.1 == key)).map (·.2)

theorem mem_valuesAt {value : α} : value ∈ valuesAt key entries ↔ (key, value) ∈ entries := by
  simp [valuesAt]

theorem length_valuesAt : (valuesAt key entries).length = (entries.map (·.1)).count key := by
  rw [valuesAt, List.length_map, ← List.countP_eq_length_filter, List.count, List.countP_map]
  rfl

theorem get?_eq_head?_valuesAt : get? key entries = (valuesAt key entries).head? := by
  induction entries with
  | nil => rfl
  | cons entry rest ih =>
      by_cases hkey : key = entry.1
      · simp [get?, valuesAt, hkey]
      · have hne : (entry.1 == key) = false := beq_eq_false_iff_ne.mpr (Ne.symm hkey)
        simp [get?, hkey, ih, valuesAt, hne]

theorem valuesAt_of_count_le (h : (entries.map (·.1)).count key ≤ 1) :
    valuesAt key entries = (get? key entries).toList := by
  rw [← length_valuesAt] at h
  rw [get?_eq_head?_valuesAt]
  match hvalues : valuesAt key entries with
  | [] => rfl
  | [value] => rfl
  | first :: second :: rest =>
      rw [hvalues] at h
      simp at h

end Entries

namespace Decoder

variable {ρ : Type} {forms : List (FieldForm ρ)} {f : FieldForm ρ}

/-- What the values under the key of a field make of it: one is read, and without any the field is
as it was. -/
inductive FieldForm.GivenBy (f : FieldForm ρ) (initial r : ρ) : List Document → Prop where
  | absent (h : f.absence ≠ .refused) (hget : f.get r = f.get initial) : GivenBy f initial r []
  | given {d : Document} (h : f.inner d = .ok (f.get r)) : GivenBy f initial r [d]

theorem FieldForm.givenBy_iff {initial r : ρ} {values : List Document} :
    f.GivenBy initial r values ↔
      (values = [] ∧ f.absence ≠ .refused ∧ f.get r = f.get initial) ∨
        ∃ d, values = [d] ∧ f.inner d = .ok (f.get r) := by
  constructor
  · rintro (⟨hallowed, hget⟩ | hinner)
    · exact .inl ⟨rfl, hallowed, hget⟩
    · exact .inr ⟨_, rfl, hinner⟩
  · rintro (⟨rfl, hallowed, hget⟩ | ⟨d, rfl, hinner⟩)
    · exact .absent hallowed hget
    · exact .given hinner

theorem FieldForm.givenBy_toList_iff {initial r : ρ} {part : Option Document} :
    f.GivenBy initial r part.toList ↔
      f.Took part initial r ∧ (part = none → f.absence ≠ .refused) := by
  cases part with
  | none =>
      constructor
      · rintro ⟨hallowed, hget⟩
        exact ⟨hget, fun _ => hallowed⟩
      · rintro ⟨hget, hallowed⟩
        exact .absent (hallowed rfl) hget
  | some d =>
      constructor
      · rintro (_ | hinner)
        exact ⟨hinner, nofun⟩
      · rintro ⟨hinner, -⟩
        exact .given hinner

theorem FieldForm.GivenBy.length_le {initial r : ρ} {values : List Document}
    (h : f.GivenBy initial r values) : values.length ≤ 1 := by
  cases h <;> simp

theorem FieldForm.GivenBy.exists_inner {initial r : ρ} {values : List Document}
    (h : f.GivenBy initial r values) {d : Document} (hd : d ∈ values) :
    ∃ a, f.inner d = .ok a := by
  cases h with
  | absent => cases hd
  | given hinner =>
      obtain rfl := List.mem_singleton.mp hd
      exact ⟨_, hinner⟩

/-- A part makes the same of a field wherever it is taken in. -/
theorem FieldForm.Took.get_eq {part : Option Document} {initial r s : ρ}
    (hs : f.Took part initial s) (hr : f.Took part initial r) : f.get s = f.get r := by
  cases part with
  | none => exact Eq.trans hs (Eq.symm hr)
  | some d => exact Except.ok.inj (Eq.trans (Eq.symm hs) hr)

namespace MembersTaken

variable {other : String → Document → ρ → Except JsonProblem ρ}
variable {parts : List (String × Document)} {seen seen' : List String} {r r' : ρ}

/-- No field was given twice. -/
theorem count_le (h : MembersTaken forms other parts seen r r' seen') (hf : f ∈ forms) :
    (parts.map (·.1)).count f.key ≤ 1 := by
  induction h with
  | nil => exact Nat.zero_le _
  | @declared g d rest seen seen' r r' a hg hnew hread hrest ih =>
      by_cases hkey : f.key = g.key
      · have hnone := hrest.get?_eq_none_of_mem hf (hkey ▸ List.mem_cons_self)
        rw [Entries.get?_eq_none_iff, ← List.count_eq_zero] at hnone
        simp [hkey ▸ hnone, hkey]
      · simpa [Ne.symm hkey] using ih
  | @undeclared key d rest _ _ _ _ _ hkey _ hrest ih => simpa [hkey f hf] using ih

/-- Every other member was taken in. -/
theorem exists_other (h : MembersTaken forms other parts seen r r' seen') :
    ∀ part ∈ parts, (∀ f ∈ forms, part.1 ≠ f.key) →
      ∃ before after, other part.1 part.2 before = .ok after := by
  induction h with
  | nil => exact fun part hpart => absurd hpart List.not_mem_nil
  | declared hf _ _ _ ih =>
      rw [List.forall_mem_cons]
      exact ⟨fun hkey => absurd rfl (hkey _ hf), ih⟩
  | undeclared _ hother _ ih =>
      rw [List.forall_mem_cons]
      exact ⟨fun _ => ⟨_, _, hother⟩, ih⟩

end MembersTaken

theorem ignore_eq_ok_iff {key : String} {d : Document} {r r' : ρ} :
    ignore key d r = .ok r' ↔ d.pass = .ok () ∧ r = r' := by
  rw [ignore, bind_eq_ok_iff]
  simp only [pure_eq_ok_iff]
  exact ⟨fun ⟨_, hpass, heq⟩ => ⟨hpass, heq⟩, fun ⟨hpass, heq⟩ => ⟨(), hpass, heq⟩⟩

theorem raise_eq_ok_iff {stop : Option JsonProblem} :
    Document.raise stop = .ok () ↔ stop = none := by
  cases stop <;> simp [Document.raise]

/-- An object is read as a record whose fields say all there is about it exactly if each field is
given at most once and as the record has it, and every other member can be passed over. -/
theorem takeObject_ignore_eq_ok_iff {parts : List (String × Document)} {stop : Option JsonProblem}
    {initial r : ρ} (hforms : Independent forms)
    (hext : ∀ s, (∀ f ∈ forms, f.get s = f.get r) → s = r) :
    takeObject (forms.map FieldForm.toField) ignore initial parts stop = .ok r ↔
      stop = none ∧ (∀ f ∈ forms, f.GivenBy initial r (Entries.valuesAt f.key parts)) ∧
        ∀ part ∈ parts, (∀ f ∈ forms, part.1 ≠ f.key) → part.2.pass = .ok () := by
  have hkept : ∀ f ∈ forms, ∀ key d s s', ignore key d s = .ok s' → f.get s' = f.get s :=
    fun f _ _ _ _ _ hignore => congrArg f.get (eq_of_ignore hignore)
  constructor
  · intro h
    obtain ⟨seen, htake, hstop, hseen⟩ := takeObject_eq_ok_iff.1 h
    have htaken := membersTaken_of_takeMembers htake
    refine ⟨raise_eq_ok_iff.1 hstop, ?_, ?_⟩
    · intro f hf
      rw [Entries.valuesAt_of_count_le (htaken.count_le hf), FieldForm.givenBy_toList_iff]
      refine ⟨htaken.took hforms hkept hf, fun hnone hrefused => ?_⟩
      have hmem := requireSeen_eq_ok_iff.1 hseen f hf hrefused
      simp [htaken.mem_seen_iff hf, hnone] at hmem
    · intro part hpart hkey
      obtain ⟨_, _, hother⟩ := htaken.exists_other part hpart hkey
      exact (ignore_eq_ok_iff.1 hother).1
  · rintro ⟨rfl, hfields, hothers⟩
    have honce : ∀ f ∈ forms, (parts.map (·.1)).count f.key ≤ 1 := by
      intro f hf
      rw [← Entries.length_valuesAt]
      exact (hfields f hf).length_le
    have htook : ∀ f ∈ forms, f.Took (Entries.get? f.key parts) initial r ∧
        (Entries.get? f.key parts = none → f.absence ≠ .refused) := by
      intro f hf
      rw [← FieldForm.givenBy_toList_iff, ← Entries.valuesAt_of_count_le (honce f hf)]
      exact hfields f hf
    have hread : ∀ f ∈ forms, ∀ d, (f.key, d) ∈ parts → ∃ a, f.inner d = .ok a :=
      fun f hf d hd => (hfields f hf).exists_inner (Entries.mem_valuesAt.mpr hd)
    have hother : ∀ part ∈ parts, (∀ f ∈ forms, part.1 ≠ f.key) →
        ∀ s : ρ, ∃ s', ignore part.1 part.2 s = .ok s' :=
      fun part hpart hkey s => ⟨s, ignore_eq_ok_iff.2 ⟨hothers part hpart hkey, rfl⟩⟩
    obtain ⟨s, seen, htaken⟩ :=
      exists_membersTaken_of_once honce (fun _ _ hmem => absurd hmem List.not_mem_nil) hread
        hother initial
    have hseen : ∀ f ∈ forms, f.absence = .refused → f.key ∈ seen := by
      intro f hf hrefused
      refine (htaken.mem_seen_iff hf).2 (.inr fun hnone => ?_)
      exact (htook f hf).2 hnone hrefused
    obtain rfl := hext s fun f hf => (htaken.took hforms hkept hf).get_eq (htook f hf).1
    exact takeObject_eq_ok_iff.2
      ⟨seen, takeMembers_of_membersTaken hforms htaken, rfl, requireSeen_eq_ok_iff.2 hseen⟩

end Decoder

end ImageFlow
