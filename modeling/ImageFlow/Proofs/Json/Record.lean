import ImageFlow.Proofs.Json.Faithful
import Mathlib.Data.List.Pairwise

/-!
# Records that are read and written field by field

A `FieldForm` holds both sides of a field: how its part of a document is read and put into the
record, and how its value is got from the record and written.  Fields are independent if putting
one of them leaves the others alone.  Then the order in which the members of an object come does
not matter: each field of a record that was read is what its own part says (`record_read`).
-/

namespace ImageFlow

namespace Decoder

/-- How a field of a record is read and written. -/
structure FieldForm (ρ : Type) where
  {Value : Type}
  key : String
  inner : Decoder Value
  absence : Absence := .fallback
  get : ρ → Value
  put : Value → ρ → ρ
  write : Value → Option Json

variable {ρ : Type}

namespace FieldForm

/-- The reading side of a form. -/
def toField (f : FieldForm ρ) : RecordField ρ :=
  field f.key f.inner f.put f.absence

@[simp]
theorem toField_key (f : FieldForm ρ) : f.toField.key = f.key := rfl

@[simp]
theorem toField_absence (f : FieldForm ρ) : f.toField.absence = f.absence := rfl

theorem take_eq_ok_iff {f : FieldForm ρ} {d : Document} {r r' : ρ} :
    f.toField.take d r = .ok r' ↔ ∃ a, f.inner d = .ok a ∧ f.put a r = r' :=
  map_eq_ok_iff

/-- What taking in a part, or nothing, has done to a field. -/
def Took (f : FieldForm ρ) (part : Option Document) (before after : ρ) : Prop :=
  match part with
  | none => f.get after = f.get before
  | some d => f.inner d = .ok (f.get after)

/-- Reads a part, or the default if there is none. -/
def read (f : FieldForm ρ) (initial : ρ) : Option Document → Except JsonProblem f.Value
  | none => if f.absence = .refused then .error .mismatch else .ok (f.get initial)
  | some d => f.inner d

theorem Took.read {f : FieldForm ρ} {part : Option Document} {initial r : ρ}
    (h : f.Took part initial r) (hpart : part = none → f.absence ≠ .refused) :
    f.read initial part = .ok (f.get r) := by
  cases part with
  | none =>
    rw [FieldForm.read, if_neg (hpart rfl)]
    exact congrArg Except.ok h.symm
  | some d => exact h

theorem Took.of_get_eq {f : FieldForm ρ} {part : Option Document} {between r r' : ρ}
    (h : f.Took part between r') (hget : f.get between = f.get r) : f.Took part r r' := by
  cases part with
  | none => exact Eq.trans h hget
  | some d => exact h

/-- Two fields of a record that leave each other alone. -/
structure Apart (f g : FieldForm ρ) : Prop where
  key_ne : f.key ≠ g.key
  get_put : ∀ a r, f.get (g.put a r) = f.get r
  get_put_symm : ∀ a r, g.get (f.put a r) = g.get r

theorem apart_iff {f g : FieldForm ρ} :
    f.Apart g ↔ f.key ≠ g.key ∧ (∀ a r, f.get (g.put a r) = f.get r) ∧
      ∀ a r, g.get (f.put a r) = g.get r :=
  ⟨fun h => ⟨h.key_ne, h.get_put, h.get_put_symm⟩, fun ⟨hkey, hfg, hgf⟩ => ⟨hkey, hfg, hgf⟩⟩

end FieldForm

instance : Std.Symm (@FieldForm.Apart ρ) where
  symm _ _ h := ⟨h.key_ne.symm, h.get_put_symm, h.get_put⟩

/-- The fields of a record are independent of each other. -/
structure Independent (forms : List (FieldForm ρ)) : Prop where
  get_put : ∀ f ∈ forms, ∀ a r, f.get (f.put a r) = a
  apart : forms.Pairwise FieldForm.Apart

variable {forms : List (FieldForm ρ)} {f g : FieldForm ρ}

theorem Independent.tail (h : Independent (f :: forms)) : Independent forms :=
  ⟨fun g hg => h.get_put g (List.mem_cons_of_mem _ hg), h.apart.of_cons⟩

theorem Independent.get_put_of_ne (h : Independent forms) (hf : f ∈ forms) (hg : g ∈ forms)
    (hne : f.key ≠ g.key) (a : g.Value) (r : ρ) : f.get (g.put a r) = f.get r :=
  (h.apart.forall hf hg fun heq => hne (heq ▸ rfl)).get_put a r

theorem Independent.eq_of_key_eq (h : Independent forms) (hf : f ∈ forms) (hg : g ∈ forms)
    (heq : f.key = g.key) : f = g := by
  by_contra hne
  exact (h.apart.forall hf hg hne).key_ne heq

/-! ## Members -/

/-- How the members of an object have been taken in: those of fields into their fields, each at most
once, and the others by `other`. -/
inductive MembersTaken (forms : List (FieldForm ρ))
    (other : String → Document → ρ → Except JsonProblem ρ) :
    List (String × Document) → List String → ρ → ρ → List String → Prop
  | nil {seen : List String} {r : ρ} : MembersTaken forms other [] seen r r seen
  | declared {f : FieldForm ρ} {d : Document} {rest : List (String × Document)}
      {seen seen' : List String} {r r' : ρ} {a : f.Value} (hf : f ∈ forms) (hnew : f.key ∉ seen)
      (hread : f.inner d = .ok a)
      (hrest : MembersTaken forms other rest (f.key :: seen) (f.put a r) r' seen') :
      MembersTaken forms other ((f.key, d) :: rest) seen r r' seen'
  | undeclared {key : String} {d : Document} {rest : List (String × Document)}
      {seen seen' : List String} {r between r' : ρ} (hkey : ∀ f ∈ forms, key ≠ f.key)
      (hother : other key d r = .ok between)
      (hrest : MembersTaken forms other rest seen between r' seen') :
      MembersTaken forms other ((key, d) :: rest) seen r r' seen'

variable {other : String → Document → ρ → Except JsonProblem ρ}

theorem fieldOf?_eq_some {key : String} {field : RecordField ρ}
    (h : fieldOf? (forms.map FieldForm.toField) key = some field) :
    ∃ f ∈ forms, f.toField = field ∧ f.key = key := by
  obtain ⟨f, hf, rfl⟩ := List.mem_map.1 (List.mem_of_find?_eq_some h)
  have hkey := List.find?_some h
  exact ⟨f, hf, rfl, eq_of_beq hkey⟩

theorem fieldOf?_eq_none {key : String} :
    fieldOf? (forms.map FieldForm.toField) key = none ↔ ∀ f ∈ forms, key ≠ f.key := by
  rw [fieldOf?, List.find?_eq_none, List.forall_mem_map]
  refine forall₂_congr fun f _ => ?_
  rw [beq_iff_eq, FieldForm.toField_key, eq_comm]

theorem membersTaken_of_takeMembers {parts : List (String × Document)}
    {seen seen' : List String} {r r' : ρ}
    (h : takeMembers (forms.map FieldForm.toField) other parts seen r = .ok (r', seen')) :
    MembersTaken forms other parts seen r r' seen' := by
  induction parts generalizing seen r with
  | nil =>
    obtain ⟨rfl, rfl⟩ := Prod.mk.inj (Except.ok.inj h)
    exact .nil
  | cons part rest ih =>
    obtain ⟨key, d⟩ := part
    rw [takeMembers] at h
    split at h
    case h_1 field hfield =>
      obtain ⟨f, hf, rfl, rfl⟩ := fieldOf?_eq_some hfield
      split at h
      · cases h
      · rename_i hnew
        obtain ⟨between, htake, hrest⟩ := bind_eq_ok_iff.1 h
        obtain ⟨a, hread, rfl⟩ := FieldForm.take_eq_ok_iff.1 htake
        exact .declared hf (by simpa using hnew) hread (ih hrest)
    case h_2 hnone =>
      obtain ⟨between, hother, hrest⟩ := bind_eq_ok_iff.1 h
      exact .undeclared (fieldOf?_eq_none.1 hnone) hother (ih hrest)

theorem takeMembers_of_membersTaken (hforms : Independent forms)
    {parts : List (String × Document)} {seen seen' : List String} {r r' : ρ}
    (h : MembersTaken forms other parts seen r r' seen') :
    takeMembers (forms.map FieldForm.toField) other parts seen r = .ok (r', seen') := by
  induction h with
  | nil => rfl
  | @declared f d rest seen seen' r r' a hf hnew hread hrest ih =>
    have hfield : fieldOf? (forms.map FieldForm.toField) f.key = some f.toField := by
      cases hlook : fieldOf? (forms.map FieldForm.toField) f.key with
      | none => exact absurd rfl (fieldOf?_eq_none.1 hlook f hf)
      | some field =>
        obtain ⟨g, hg, rfl, hkey⟩ := fieldOf?_eq_some hlook
        rw [hforms.eq_of_key_eq hg hf hkey]
    have htake : f.toField.take d r = .ok (f.put a r) := FieldForm.take_eq_ok_iff.2 ⟨a, hread, rfl⟩
    rw [takeMembers, hfield]
    simp only [List.contains_eq_mem, hnew, decide_false, Bool.false_eq_true, if_false, htake]
    exact ih
  | undeclared hkey hother hrest ih =>
    rw [takeMembers, fieldOf?_eq_none.2 hkey]
    simp only [hother]
    exact ih

namespace MembersTaken

variable {parts : List (String × Document)} {seen seen' : List String} {r r' : ρ}

theorem mem_seen_iff (h : MembersTaken forms other parts seen r r' seen') (hf : f ∈ forms) :
    f.key ∈ seen' ↔ f.key ∈ seen ∨ Entries.get? f.key parts ≠ none := by
  induction h with
  | nil => simp [Entries.get?]
  | @declared g d rest _ _ _ _ _ hg hnew _ hrest ih =>
    by_cases hkey : f.key = g.key
    · rw [iff_true_right (.inr (by simp [Entries.get?, hkey]))]
      exact ih.2 (.inl (by simp [hkey]))
    · simp [ih, Entries.get?, hkey]
  | @undeclared key d rest _ _ _ _ _ hkey _ hrest ih =>
    simp [ih, Entries.get?, (hkey f hf).symm]

theorem get?_eq_none_of_mem (h : MembersTaken forms other parts seen r r' seen')
    (hf : f ∈ forms) (hseen : f.key ∈ seen) : Entries.get? f.key parts = none := by
  induction h with
  | nil => rfl
  | @declared g d rest _ _ _ _ _ hg hnew _ hrest ih =>
    have hkey : f.key ≠ g.key := by
      rintro heq
      exact hnew (heq ▸ hseen)
    simpa [Entries.get?, hkey] using ih (List.mem_cons_of_mem _ hseen)
  | @undeclared key d rest _ _ _ _ _ hkey _ hrest ih =>
    simpa [Entries.get?, (hkey f hf).symm] using ih hseen

/-- Each field is in the end what its member says. -/
theorem took (h : MembersTaken forms other parts seen r r' seen') (hforms : Independent forms)
    (hother : ∀ f ∈ forms, ∀ key d r r', other key d r = .ok r' → f.get r' = f.get r)
    (hf : f ∈ forms) : f.Took (Entries.get? f.key parts) r r' := by
  induction h with
  | nil => rfl
  | @declared g d rest seen seen' r r' a hg hnew hread hrest ih =>
    by_cases hkey : f.key = g.key
    · obtain rfl := hforms.eq_of_key_eq hf hg hkey
      have hnone := hrest.get?_eq_none_of_mem hf List.mem_cons_self
      rw [hnone] at ih
      have hget : f.get r' = a := ih.trans (hforms.get_put f hf a r)
      simpa [FieldForm.Took, Entries.get?, hget] using hread
    · simpa [Entries.get?, hkey] using ih.of_get_eq (hforms.get_put_of_ne hf hg hkey a r)
  | @undeclared key d rest seen seen' r between r' hkey hkept hrest ih =>
    simpa [Entries.get?, (hkey f hf).symm] using ih.of_get_eq (hother f hf key d r between hkept)

end MembersTaken

/-- Members can be taken in if each of them can be read and no field is given twice. -/
theorem exists_membersTaken_of_once {parts : List (String × Document)} {seen : List String}
    (honce : ∀ f ∈ forms, (parts.map (·.1)).count f.key ≤ 1)
    (hseen : ∀ f ∈ forms, f.key ∈ seen → f.key ∉ parts.map (·.1))
    (hread : ∀ f ∈ forms, ∀ d, (f.key, d) ∈ parts → ∃ a, f.inner d = .ok a)
    (hother : ∀ part ∈ parts, (∀ f ∈ forms, part.1 ≠ f.key) →
      ∀ r, ∃ r', other part.1 part.2 r = .ok r') (r : ρ) :
    ∃ r' seen', MembersTaken forms other parts seen r r' seen' := by
  induction parts generalizing seen r with
  | nil => exact ⟨r, seen, .nil⟩
  | cons part rest ih =>
    obtain ⟨key, d⟩ := part
    have honce' : ∀ f ∈ forms, (rest.map (·.1)).count f.key ≤ 1 := fun f hf =>
      Nat.le_trans (List.Sublist.count_le f.key (List.sublist_cons_self _ _)) (honce f hf)
    have hseen' : ∀ f ∈ forms, f.key ∈ seen → f.key ∉ rest.map (·.1) := fun f hf hmem hrest =>
      hseen f hf hmem (List.mem_cons_of_mem _ hrest)
    have hread' := fun f hf d hd => hread f hf d (List.mem_cons_of_mem _ hd)
    have hother' := fun part hpart => hother part (List.mem_cons_of_mem _ hpart)
    by_cases hkey : ∃ f ∈ forms, f.key = key
    · obtain ⟨f, hf, rfl⟩ := hkey
      obtain ⟨a, ha⟩ := hread f hf d List.mem_cons_self
      have hlater : ∀ g ∈ forms, g.key ∈ f.key :: seen → g.key ∉ rest.map (·.1) := by
        intro g hg hmem
        rcases List.mem_cons.1 hmem with heq | hmem
        · have hcount := honce f hf
          rw [List.map_cons, List.count_cons_self] at hcount
          rw [heq, ← List.count_eq_zero]
          omega
        · exact hseen' g hg hmem
      obtain ⟨r', seen', htaken⟩ := ih honce' hlater hread' hother' (f.put a r)
      have hnew : f.key ∉ seen := fun hmem => hseen f hf hmem List.mem_cons_self
      exact ⟨r', seen', .declared hf hnew ha htaken⟩
    · have hfree : ∀ f ∈ forms, key ≠ f.key := fun f hf heq => hkey ⟨f, hf, heq.symm⟩
      obtain ⟨between, hbetween⟩ := hother _ List.mem_cons_self hfree r
      obtain ⟨r', seen', htaken⟩ := ih honce' hseen' hread' hother' between
      exact ⟨r', seen', .undeclared hfree hbetween htaken⟩

theorem exists_membersTaken {parts : List (String × Document)} {seen : List String}
    (hnodup : (parts.map (·.1)).Nodup) (hseen : ∀ part ∈ parts, part.1 ∉ seen)
    (hread : ∀ f ∈ forms, ∀ d, (f.key, d) ∈ parts → ∃ a, f.inner d = .ok a)
    (hother : ∀ part ∈ parts, (∀ f ∈ forms, part.1 ≠ f.key) →
      ∀ r, ∃ r', other part.1 part.2 r = .ok r') (r : ρ) :
    ∃ r' seen', MembersTaken forms other parts seen r r' seen' := by
  refine exists_membersTaken_of_once (fun f _ => List.nodup_iff_count.1 hnodup f.key) ?_
    hread hother r
  intro f _ hmem hpart
  obtain ⟨part, hpart, heq⟩ := List.mem_map.1 hpart
  exact hseen part hpart (heq ▸ hmem)

/-! ## Other members of open records -/

/-- Members that are no field are kept in a map beside the fields. -/
structure KeepsOther (forms : List (FieldForm ρ)) (keep : String → Json → ρ → ρ)
    (rest : ρ → OrderedMap Json) : Prop where
  get_keep : ∀ f ∈ forms, ∀ key v r, f.get (keep key v r) = f.get r
  rest_keep : ∀ key v r, rest (keep key v r) = (rest r).insert key v
  rest_put : ∀ f ∈ forms, ∀ a r, rest (f.put a r) = rest r

/-- Reads a member that is no field and keeps it. -/
def keeping (keep : String → Json → ρ → ρ) (key : String) (item : Document) (r : ρ) :
    Except JsonProblem ρ :=
  (keep key · r) <$> item.toJson

theorem get_of_keeping {keep : String → Json → ρ → ρ} {rest : ρ → OrderedMap Json}
    (hkeep : KeepsOther forms keep rest) (hf : f ∈ forms) {key : String} {d : Document} {r r' : ρ}
    (h : keeping keep key d r = .ok r') : f.get r' = f.get r := by
  obtain ⟨v, _, rfl⟩ := map_eq_ok_iff.1 h
  exact hkeep.get_keep f hf key v r

theorem eq_of_ignore {key : String} {d : Document} {r r' : ρ} (h : ignore key d r = .ok r') :
    r' = r := by
  obtain ⟨_, _, hpure⟩ := bind_eq_ok_iff.1 h
  exact (pure_eq_ok_iff.1 hpure).symm

namespace MembersTaken

variable {keep : String → Json → ρ → ρ} {rest : ρ → OrderedMap Json}
variable {parts : List (String × Document)} {seen seen' : List String} {r r' : ρ}

theorem rest_get?_declared (h : MembersTaken forms (keeping keep) parts seen r r' seen')
    (hkeep : KeepsOther forms keep rest) (hf : f ∈ forms) :
    (rest r').get? f.key = (rest r).get? f.key := by
  induction h with
  | nil => rfl
  | @declared g _ _ _ _ r _ a hg _ _ _ ih => rw [ih, hkeep.rest_put g hg a r]
  | undeclared hkey hother _ ih =>
    obtain ⟨v, _, rfl⟩ := map_eq_ok_iff.1 hother
    rw [ih, hkeep.rest_keep, OrderedMap.get?_insert, if_neg (hkey f hf).symm]

theorem rest_inOrder (h : MembersTaken forms (keeping keep) parts seen r r' seen')
    (hkeep : KeepsOther forms keep rest)
    (hr : ∀ key v, (rest r).get? key = some v → v.InOrder) :
    ∀ key v, (rest r').get? key = some v → v.InOrder := by
  induction h with
  | nil => exact hr
  | @declared g _ _ _ _ r _ a hg _ _ _ ih => exact ih (by rwa [hkeep.rest_put g hg a r])
  | undeclared _ hother _ ih =>
    obtain ⟨v, hv, rfl⟩ := map_eq_ok_iff.1 hother
    refine ih fun key w hw => ?_
    rw [hkeep.rest_keep, OrderedMap.get?_insert] at hw
    split at hw
    · obtain rfl := Option.some.inj hw
      exact Document.inOrder_of_toJson _ _ hv
    · exact hr key w hw

/-- The other members of a value are kept as they are. -/
theorem rest_get? {members : List (String × Json)}
    (h : MembersTaken forms (keeping keep) (Document.ofMembers members) seen r r' seen')
    (hkeep : KeepsOther forms keep rest) (hnodup : (members.map (·.1)).Nodup)
    (horder : ∀ member ∈ members, member.2.InOrder) {key : String}
    (hkey : ∀ f ∈ forms, key ≠ f.key) :
    (rest r').get? key = (Entries.get? key members).or ((rest r).get? key) := by
  induction members generalizing seen r with
  | nil =>
    cases h
    rfl
  | cons member others ih =>
    obtain ⟨name, value⟩ := member
    obtain ⟨hnew, hothers⟩ := List.nodup_cons.1 hnodup
    have horder' := fun member hmember => horder member (List.mem_cons_of_mem _ hmember)
    cases h with
    | @declared f _ _ _ _ _ _ a hf _ _ hrest =>
      rw [ih hrest hothers horder', hkeep.rest_put f hf a r, Entries.get?, if_neg (hkey f hf)]
    | undeclared _ hother hrest =>
      obtain ⟨v, hv, rfl⟩ := map_eq_ok_iff.1 hother
      have hvalue := Document.toJson_ofJson value (horder _ List.mem_cons_self)
      obtain rfl : value = v := Except.ok.inj (hvalue.symm.trans hv)
      rw [ih hrest hothers horder', hkeep.rest_keep, OrderedMap.get?_insert, Entries.get?]
      by_cases heq : key = name
      · simp [heq, Entries.get?_eq_none_iff.2 hnew]
      · simp [heq]

end MembersTaken

/-! ## Objects and arrays -/

theorem requireSeen_eq_ok_iff {seen : List String} :
    requireSeen (forms.map FieldForm.toField) seen = .ok () ↔
      ∀ f ∈ forms, f.absence = .refused → f.key ∈ seen := by
  have hall : (forms.map FieldForm.toField).all
      (fun field => field.absence != .refused || seen.contains field.key) = true ↔
        ∀ f ∈ forms, f.absence = .refused → f.key ∈ seen := by
    rw [List.all_eq_true, List.forall_mem_map]
    refine forall₂_congr fun f _ => ?_
    rw [FieldForm.toField_key, FieldForm.toField_absence, Bool.or_eq_true, bne_iff_ne,
      List.contains_iff_mem, imp_iff_not_or]
  rw [← hall, requireSeen]
  split <;> simp_all

theorem takeObject_eq_ok_iff {parts : List (String × Document)} {stop : Option JsonProblem}
    {fields : List (RecordField ρ)} {initial r : ρ} :
    takeObject fields other initial parts stop = .ok r ↔
      ∃ seen, takeMembers fields other parts [] initial = .ok (r, seen) ∧
        Document.raise stop = .ok () ∧ requireSeen fields seen = .ok () := by
  simp only [takeObject, bind_eq_ok_iff, pure_eq_ok_iff]
  constructor
  · rintro ⟨⟨_, seen⟩, htake, _, hstop, _, hseen, rfl⟩
    exact ⟨seen, htake, hstop, hseen⟩
  · rintro ⟨seen, htake, hstop, hseen⟩
    exact ⟨(r, seen), htake, (), hstop, (), hseen, rfl⟩

theorem takeObject_read {parts : List (String × Document)} {stop : Option JsonProblem}
    {initial r : ρ} (hforms : Independent forms)
    (hother : ∀ f ∈ forms, ∀ key d r r', other key d r = .ok r' → f.get r' = f.get r)
    (h : takeObject (forms.map FieldForm.toField) other initial parts stop = .ok r)
    (hf : f ∈ forms) : f.read initial (Entries.get? f.key parts) = .ok (f.get r) := by
  obtain ⟨seen, htake, _, hseen⟩ := takeObject_eq_ok_iff.1 h
  have htaken := membersTaken_of_takeMembers htake
  refine (htaken.took hforms hother hf).read fun hnone hrefused => ?_
  have hmem := requireSeen_eq_ok_iff.1 hseen f hf hrefused
  simp [htaken.mem_seen_iff hf, hnone] at hmem

/-- An object whose members all can be read is taken in, whatever their order. -/
theorem exists_takeObject {parts : List (String × Document)} {initial r : ρ}
    (hforms : Independent forms)
    (hget : ∀ f ∈ forms, ∀ key d s s', other key d s = .ok s' → f.get s' = f.get s)
    (hsorted : Entries.Sorted parts)
    (hread : ∀ f ∈ forms, f.read initial (Entries.get? f.key parts) = .ok (f.get r))
    (hother : ∀ part ∈ parts, (∀ f ∈ forms, part.1 ≠ f.key) →
      ∀ s, ∃ s', other part.1 part.2 s = .ok s') :
    ∃ s seen, MembersTaken forms other parts [] initial s seen ∧
      takeObject (forms.map FieldForm.toField) other initial parts none = .ok s ∧
        ∀ f ∈ forms, f.get s = f.get r := by
  have hinner : ∀ f ∈ forms, ∀ d, (f.key, d) ∈ parts → ∃ a, f.inner d = .ok a := by
    intro f hf d hd
    have hpart := hread f hf
    rw [Entries.get?_eq_some_of_mem hsorted hd] at hpart
    exact ⟨_, hpart⟩
  obtain ⟨s, seen, htaken⟩ :=
    exists_membersTaken hsorted.nodup_keys (fun _ _ => List.not_mem_nil) hinner hother initial
  have hseen : ∀ f ∈ forms, f.absence = .refused → f.key ∈ seen := by
    intro f hf hrefused
    refine (htaken.mem_seen_iff hf).2 (.inr fun hnone => ?_)
    have hpart := hread f hf
    rw [hnone, FieldForm.read, if_pos hrefused] at hpart
    cases hpart
  have htake : takeObject (forms.map FieldForm.toField) other initial parts none = .ok s :=
    takeObject_eq_ok_iff.2
      ⟨seen, takeMembers_of_membersTaken hforms htaken, rfl, requireSeen_eq_ok_iff.2 hseen⟩
  refine ⟨s, seen, htaken, htake, fun f hf => ?_⟩
  exact Except.ok.inj ((takeObject_read hforms hget htake hf).symm.trans (hread f hf))

/-- A field that is not among those of an array stays as it is. -/
theorem takeItems_frame {β : Type} (observe : ρ → β) {items : List Document}
    {stop : Option JsonProblem} {r r' : ρ}
    (hforms : ∀ f ∈ forms, ∀ a r, observe (f.put a r) = observe r)
    (h : takeItems (forms.map FieldForm.toField) items stop r = .ok r') :
    observe r' = observe r := by
  induction forms generalizing items r with
  | nil =>
    cases items with
    | nil =>
      obtain ⟨_, _, hpure⟩ := bind_eq_ok_iff.1 h
      rw [pure_eq_ok_iff.1 hpure]
    | cons => cases h
  | cons f forms ih =>
    have hforms' := fun g hg => hforms g (List.mem_cons_of_mem _ hg)
    cases items with
    | cons item items =>
      obtain ⟨between, htake, hrest⟩ := bind_eq_ok_iff.1 h
      obtain ⟨a, _, rfl⟩ := FieldForm.take_eq_ok_iff.1 htake
      rw [ih hforms' hrest, hforms f List.mem_cons_self a r]
    | nil =>
      obtain ⟨_, _, hrest⟩ := bind_eq_ok_iff.1 h
      split at hrest
      · exact ih hforms' hrest
      · cases hrest

/-- Each field of an array is in the end what the element at its place says. -/
theorem takeItems_took {items : List Document} {stop : Option JsonProblem} {r r' : ρ}
    (hforms : Independent forms)
    (h : takeItems (forms.map FieldForm.toField) items stop r = .ok r') {place : Nat}
    (hf : forms[place]? = some f) :
    f.Took items[place]? r r' ∧ (items[place]? = none → f.absence = .fallback) := by
  induction forms generalizing items r place with
  | nil => simp at hf
  | cons g forms ih =>
    have hfirst := (List.pairwise_cons.1 hforms.apart).1
    cases items with
    | cons item items =>
      obtain ⟨between, htake, hrest⟩ := bind_eq_ok_iff.1 h
      obtain ⟨a, hread, rfl⟩ := FieldForm.take_eq_ok_iff.1 htake
      cases place with
      | zero =>
        obtain rfl : g = f := Option.some.inj hf
        have hkept := takeItems_frame g.get (fun f hf => (hfirst f hf).get_put) hrest
        have hget := hkept.trans (hforms.get_put g List.mem_cons_self a r)
        exact ⟨by simpa [FieldForm.Took, hget] using hread, by simp⟩
      | succ place =>
        have hmem : f ∈ forms := List.mem_of_getElem? hf
        obtain ⟨htook, habsent⟩ := ih hforms.tail hrest hf
        exact ⟨htook.of_get_eq ((hfirst f hmem).get_put_symm a r), habsent⟩
    | nil =>
      obtain ⟨_, _, hrest⟩ := bind_eq_ok_iff.1 h
      split at hrest
      · rename_i hfallback
        cases place with
        | zero =>
          obtain rfl : g = f := Option.some.inj hf
          exact ⟨takeItems_frame g.get (fun f hf => (hfirst f hf).get_put) hrest,
            fun _ => hfallback⟩
        | succ place => simpa using ih hforms.tail hrest hf
      · cases hrest

end Decoder

end ImageFlow
