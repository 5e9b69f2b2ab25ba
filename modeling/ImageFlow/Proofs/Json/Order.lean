import ImageFlow.Json.Document
import ImageFlow.Proofs.Data.OrderedMap
import ImageFlow.Proofs.Json.Kept

/-!
# Values whose objects are maps

A value is in order if each of its objects has one member for every key, in key order.  These are
the values that a program holds: the value of a document is in order whatever the order of its
members was, and a value in order is the value of its own document.
-/

namespace ImageFlow

section Steps

variable {ε α β : Type}

theorem bind_eq_ok_iff {x : Except ε α} {f : α → Except ε β} {b : β} :
    x >>= f = .ok b ↔ ∃ a, x = .ok a ∧ f a = .ok b := by
  cases x with
  | error => simp [bind, Except.bind]
  | ok a => simp [bind, Except.bind]

theorem map_eq_ok_iff {x : Except ε α} {f : α → β} {b : β} :
    f <$> x = .ok b ↔ ∃ a, x = .ok a ∧ f a = b := by
  cases x with
  | error => simp [Functor.map, Except.map]
  | ok a => simp [Functor.map, Except.map]

theorem pure_eq_ok_iff {a b : α} : (pure a : Except ε α) = .ok b ↔ a = b := by
  simp [pure, Except.pure]

end Steps

namespace Json

mutual

/-- The objects of the value have their members in strict key order, at every depth. -/
def InOrder : Json → Prop
  | .array items => InOrderItems items
  | .object members => Entries.Sorted members ∧ InOrderMembers members
  | _ => True

def InOrderItems : List Json → Prop
  | [] => True
  | item :: rest => InOrder item ∧ InOrderItems rest

/-- The values of a list of members are in order. -/
def InOrderMembers : List (String × Json) → Prop
  | [] => True
  | (_, value) :: rest => InOrder value ∧ InOrderMembers rest

end

mutual

def decidableInOrder : (v : Json) → Decidable v.InOrder
  | .null | .bool _ | .number _ | .text _ => isTrue trivial
  | .array items => decidableInOrderItems items
  | .object members =>
    @instDecidableAnd _ _ (Entries.decidableSorted members) (decidableInOrderMembers members)

def decidableInOrderItems : (items : List Json) → Decidable (InOrderItems items)
  | [] => isTrue trivial
  | item :: rest => @instDecidableAnd _ _ (decidableInOrder item) (decidableInOrderItems rest)

def decidableInOrderMembers :
    (members : List (String × Json)) → Decidable (InOrderMembers members)
  | [] => isTrue trivial
  | (_, value) :: rest =>
    @instDecidableAnd _ _ (decidableInOrder value) (decidableInOrderMembers rest)

end

instance : DecidablePred InOrder := decidableInOrder

theorem inOrderItems_iff (items : List Json) :
    InOrderItems items ↔ ∀ item ∈ items, item.InOrder := by
  induction items with
  | nil => simp [InOrderItems]
  | cons item rest ih => simp [InOrderItems, ih]

theorem inOrderMembers_iff (members : List (String × Json)) :
    InOrderMembers members ↔ ∀ member ∈ members, member.2.InOrder := by
  induction members with
  | nil => simp [InOrderMembers]
  | cons member rest ih => simp [InOrderMembers, ih]

@[simp]
theorem inOrder_null : null.InOrder := by simp [InOrder]

@[simp]
theorem inOrder_bool (b : Bool) : (bool b).InOrder := by simp [InOrder]

@[simp]
theorem inOrder_number (n : Number) : (number n).InOrder := by simp [InOrder]

@[simp]
theorem inOrder_text (s : String) : (text s).InOrder := by simp [InOrder]

theorem inOrder_array_iff {items : List Json} :
    (array items).InOrder ↔ ∀ item ∈ items, item.InOrder := by
  rw [InOrder, inOrderItems_iff]

theorem inOrder_object_iff {members : List (String × Json)} :
    (object members).InOrder ↔
      Entries.Sorted members ∧ ∀ member ∈ members, member.2.InOrder := by
  rw [InOrder, inOrderMembers_iff]

theorem inOrder_ofPairs {members : List (String × Json)}
    (h : ∀ member ∈ members, member.2.InOrder) : (ofPairs members).InOrder :=
  inOrder_object_iff.2
    ⟨(OrderedMap.ofList members).sorted,
      fun _ hmember => h _ (OrderedMap.mem_pairs_of_mem_entries hmember)⟩

theorem inOrder_of_part?_eq_some {v value : Json} {place : Nat} {key : String} (h : v.InOrder)
    (hpart : v.part? place key = some value) : value.InOrder := by
  cases v with
  | array items => exact inOrder_array_iff.1 h _ (List.mem_of_getElem? hpart)
  | object => exact (inOrder_object_iff.1 h).2 _ (Entries.mem_of_get?_eq_some hpart)
  | _ => cases hpart

end Json

namespace Document

theorem ofItems_eq_map (items : List Json) : ofItems items = items.map ofJson := by
  induction items with
  | nil => rfl
  | cons item rest ih => simp [ofItems, ih]

theorem ofMembers_eq_map (members : List (String × Json)) :
    ofMembers members = members.map fun member => (member.1, ofJson member.2) := by
  induction members with
  | nil => rfl
  | cons member rest ih => simp [ofMembers, ih]

theorem get?_ofMembers (key : String) (members : List (String × Json)) :
    Entries.get? key (ofMembers members) = (Entries.get? key members).map ofJson := by
  rw [ofMembers_eq_map, Entries.get?_map]

mutual

/-- A value in order is the value of its document. -/
theorem toJson_ofJson : (v : Json) → v.InOrder → (ofJson v).toJson = .ok v
  | .null, _ | .bool _, _ | .number _, _ | .text _, _ => rfl
  | .array items, h => by
    have hitems := toItems_ofItems items (by simpa only [Json.InOrder] using h)
    simp only [ofJson, toJson, hitems]
    rfl
  | .object members, h => by
    obtain ⟨hsorted, hvalues⟩ : Entries.Sorted members ∧ Json.InOrderMembers members := by
      simpa only [Json.InOrder] using h
    have hmembers := toMembers_ofMembers members hvalues
    simp only [ofJson, toJson, hmembers]
    exact congrArg (fun m : OrderedMap Json => Except.ok (Json.object m.entries))
      (OrderedMap.ofList_entries ⟨members, hsorted⟩)

theorem toItems_ofItems :
    (items : List Json) → Json.InOrderItems items → toItems (ofItems items) = .ok items
  | [], _ => rfl
  | item :: rest, h => by
    obtain ⟨hitem, hrest⟩ : item.InOrder ∧ Json.InOrderItems rest := by
      simpa only [Json.InOrderItems] using h
    simp only [ofItems, toItems, toJson_ofJson item hitem, toItems_ofItems rest hrest]
    rfl

theorem toMembers_ofMembers :
    (members : List (String × Json)) → Json.InOrderMembers members →
      toMembers (ofMembers members) = .ok members
  | [], _ => rfl
  | (key, value) :: rest, h => by
    obtain ⟨hvalue, hrest⟩ : value.InOrder ∧ Json.InOrderMembers rest := by
      simpa only [Json.InOrderMembers] using h
    simp only [ofMembers, toMembers, toJson_ofJson value hvalue, toMembers_ofMembers rest hrest]
    rfl

end

mutual

/-- What a document says is in order, whatever the order in which it says it. -/
theorem inOrder_of_toJson : (d : Document) → (v : Json) → d.toJson = .ok v → v.InOrder
  | .null, _, h | .bool _, _, h | .number _, _, h | .text _, _, h => by
    obtain rfl := Except.ok.inj h
    simp
  | .array items stop, v, h => by
    rw [toJson] at h
    obtain ⟨values, hvalues, hrest⟩ := bind_eq_ok_iff.1 h
    obtain ⟨_, _, hpure⟩ := bind_eq_ok_iff.1 hrest
    obtain rfl := pure_eq_ok_iff.1 hpure
    rw [Json.InOrder]
    exact inOrderItems_of_toItems items values hvalues
  | .object members stop, v, h => by
    rw [toJson] at h
    obtain ⟨values, hvalues, hrest⟩ := bind_eq_ok_iff.1 h
    obtain ⟨_, _, hpure⟩ := bind_eq_ok_iff.1 hrest
    obtain rfl := pure_eq_ok_iff.1 hpure
    have hinOrder := inOrderMembers_of_toMembers members values hvalues
    exact Json.inOrder_ofPairs ((Json.inOrderMembers_iff values).1 hinOrder)
  | .passable wanted _, v, h => inOrder_of_toJson wanted v h

theorem inOrderItems_of_toItems :
    (items : List Document) → (values : List Json) → toItems items = .ok values →
      Json.InOrderItems values
  | [], values, h => by
    obtain rfl := Except.ok.inj h
    trivial
  | item :: rest, values, h => by
    obtain ⟨value, hvalue, hrest⟩ := bind_eq_ok_iff.1 h
    obtain ⟨others, hothers, hpure⟩ := bind_eq_ok_iff.1 hrest
    obtain rfl := pure_eq_ok_iff.1 hpure
    exact ⟨inOrder_of_toJson item value hvalue, inOrderItems_of_toItems rest others hothers⟩

theorem inOrderMembers_of_toMembers :
    (members : List (String × Document)) → (values : List (String × Json)) →
      toMembers members = .ok values → Json.InOrderMembers values
  | [], values, h => by
    obtain rfl := Except.ok.inj h
    trivial
  | (key, item) :: rest, values, h => by
    obtain ⟨value, hvalue, hrest⟩ := bind_eq_ok_iff.1 h
    obtain ⟨others, hothers, hpure⟩ := bind_eq_ok_iff.1 hrest
    obtain rfl := pure_eq_ok_iff.1 hpure
    exact ⟨inOrder_of_toJson item value hvalue, inOrderMembers_of_toMembers rest others hothers⟩

end

end Document

end ImageFlow
