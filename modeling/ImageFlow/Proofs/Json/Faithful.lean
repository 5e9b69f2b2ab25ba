import ImageFlow.Json.Decode
import ImageFlow.Proofs.Json.Order

/-!
# Decoders and encoders that fit together

`Decoder.Faithful` ties a decoder to an encoder: what was decoded is written as a value that is
decoded again as the same thing, and the value written has kept of the value read what a given
relation says.  The relation is built up with the decoder, so that for a whole document it follows
the document and not the code that reads it.
-/

namespace ImageFlow

variable {α β : Type}

namespace Decoder

/-! ## What lists and maps are decoded as -/

theorem items_eq_ok_iff {inner : Decoder α} {documents : List Document} {values : List α} :
    items inner documents = .ok values ↔
      List.Forall₂ (fun d a => inner d = .ok a) documents values := by
  induction documents generalizing values with
  | nil => simp [items, eq_comm]
  | cons d rest ih =>
    simp only [items, bind_eq_ok_iff, pure_eq_ok_iff, ih, List.forall₂_cons_left_iff]
    constructor
    · rintro ⟨a, ha, others, hothers, rfl⟩
      exact ⟨a, others, ha, hothers, rfl⟩
    · rintro ⟨a, others, ha, hothers, rfl⟩
      exact ⟨a, ha, others, hothers, rfl⟩

theorem members_eq_ok_iff {inner : Decoder α} {documents : List (String × Document)}
    {values : List (String × α)} :
    members inner documents = .ok values ↔
      List.Forall₂ (fun d a => d.1 = a.1 ∧ inner d.2 = .ok a.2) documents values := by
  induction documents generalizing values with
  | nil => simp [members, eq_comm]
  | cons d rest ih =>
    obtain ⟨key, d⟩ := d
    simp only [members, bind_eq_ok_iff, pure_eq_ok_iff, ih, List.forall₂_cons_left_iff]
    constructor
    · rintro ⟨a, ha, others, hothers, rfl⟩
      exact ⟨(key, a), others, ⟨rfl, ha⟩, hothers, rfl⟩
    · rintro ⟨⟨_, a⟩, others, ⟨rfl, ha⟩, hothers, rfl⟩
      exact ⟨a, ha, others, hothers, rfl⟩

theorem forall₂_right_exists {γ δ : Type*} {R : γ → δ → Prop} {before : List γ} {after : List δ}
    (h : List.Forall₂ R before after) : ∀ b ∈ after, ∃ a, R a b := by
  induction h with
  | nil => simp
  | cons hab _ ih => exact List.forall_mem_cons.2 ⟨⟨_, hab⟩, ih⟩

/-- Every element of a list that was read was read from some part of the document. -/
theorem exists_of_mem_list {inner : Decoder α} {d : Document} {values : List α}
    (h : list inner d = .ok values) : ∀ a ∈ values, ∃ e, inner e = .ok a := by
  induction d using list.induct with
  | case1 documents stop =>
    obtain ⟨read, hread, hrest⟩ := bind_eq_ok_iff.1 h
    obtain ⟨_, _, hpure⟩ := bind_eq_ok_iff.1 hrest
    obtain rfl := pure_eq_ok_iff.1 hpure
    exact forall₂_right_exists (items_eq_ok_iff.1 hread)
  | case2 problem => cases h
  | case3 wanted passed ih => exact ih h
  | case4 d harray hbroken hpassable => cases d <;> simp_all [list]

/-- Every value of a map that was read was read from some part of the document. -/
theorem exists_of_mem_map {inner : Decoder α} {d : Document} {m : OrderedMap α}
    (h : map inner d = .ok m) : ∀ entry ∈ m.entries, ∃ e, inner e = .ok entry.2 := by
  induction d using map.induct with
  | case1 documents stop =>
    obtain ⟨read, hread, hrest⟩ := bind_eq_ok_iff.1 h
    obtain ⟨_, _, hpure⟩ := bind_eq_ok_iff.1 hrest
    obtain rfl := pure_eq_ok_iff.1 hpure
    intro entry hentry
    obtain ⟨e, _, he⟩ := forall₂_right_exists (members_eq_ok_iff.1 hread) entry
      (OrderedMap.mem_pairs_of_mem_entries hentry)
    exact ⟨e.2, he⟩
  | case2 problem => cases h
  | case3 wanted passed ih => exact ih h
  | case4 d hobject hbroken hpassable => cases d <;> simp_all [map]

/-! ## Faithful decoders -/

/-- A decoder and an encoder fit together: what was decoded is written as a value in order, which is
decoded as the same thing again; and what is decoded from a value is written as a value that has
kept of the first one what `Kept` says. -/
structure Faithful (decode : Decoder α) (encode : α → Json) (Kept : Json → Json → Prop) :
    Prop where
  decode_encode : ∀ {d : Document} {a : α}, decode d = .ok a →
    decode (.ofJson (encode a)) = .ok a
  inOrder_encode : ∀ {d : Document} {a : α}, decode d = .ok a → (encode a).InOrder
  kept : ∀ {v : Json} {a : α}, v.InOrder → decode (.ofJson v) = .ok a → Kept v (encode a)

namespace Faithful

variable {decode : Decoder α} {encode : α → Json} {Kept : Json → Json → Prop}

theorem mono (h : Faithful decode encode Kept) {Kept' : Json → Json → Prop}
    (himp : ∀ v v', Kept v v' → Kept' v v') : Faithful decode encode Kept' where
  decode_encode := h.decode_encode
  inOrder_encode := h.inOrder_encode
  kept hv hdecode := himp _ _ (h.kept hv hdecode)

/-- What was decoded may be held in another form. -/
theorem map_value (h : Faithful decode encode Kept) (f : α → β) {encode' : β → Json}
    (hencode : ∀ a, encode' (f a) = encode a) :
    Faithful (fun d => f <$> decode d) encode' Kept where
  decode_encode := by
    intro d b hd
    obtain ⟨a, ha, rfl⟩ := map_eq_ok_iff.1 hd
    rw [hencode]
    exact map_eq_ok_iff.2 ⟨a, h.decode_encode ha, rfl⟩
  inOrder_encode := by
    intro d b hd
    obtain ⟨a, ha, rfl⟩ := map_eq_ok_iff.1 hd
    exact hencode a ▸ h.inOrder_encode ha
  kept := by
    intro v b hv hd
    obtain ⟨a, ha, rfl⟩ := map_eq_ok_iff.1 hd
    exact hencode a ▸ h.kept hv ha

theorem text : Faithful Decoder.text .text (· = ·) where
  decode_encode _ := rfl
  inOrder_encode _ := Json.inOrder_text _
  kept := by
    intro v s _ h
    cases v with
    | text => exact congrArg Json.text (Except.ok.inj h)
    | _ => cases h

theorem bool : Faithful Decoder.bool .bool (· = ·) where
  decode_encode _ := rfl
  inOrder_encode _ := Json.inOrder_bool _
  kept := by
    intro v b _ h
    cases v with
    | bool => exact congrArg Json.bool (Except.ok.inj h)
    | _ => cases h

theorem json : Faithful Decoder.json (fun v => v) (· = ·) where
  decode_encode h := Document.toJson_ofJson _ (Document.inOrder_of_toJson _ _ h)
  inOrder_encode h := Document.inOrder_of_toJson _ _ h
  kept hv h := Except.ok.inj ((Document.toJson_ofJson _ hv).symm.trans h)

theorem list (h : Faithful decode encode Kept) :
    Faithful (Decoder.list decode) (fun values => .array (values.map encode))
      (Json.EachItem Kept) where
  decode_encode := by
    intro d values hd
    have hread := exists_of_mem_list hd
    have hagain : items decode (Document.ofItems (values.map encode)) = .ok values := by
      rw [items_eq_ok_iff, Document.ofItems_eq_map, List.map_map, List.forall₂_map_left_iff,
        List.forall₂_same]
      intro a ha
      obtain ⟨e, he⟩ := hread a ha
      exact h.decode_encode he
    simp only [Document.ofJson, Decoder.list, hagain]
    rfl
  inOrder_encode := by
    intro d values hd
    rw [Json.inOrder_array_iff, List.forall_mem_map]
    intro a ha
    obtain ⟨e, he⟩ := exists_of_mem_list hd a ha
    exact h.inOrder_encode he
  kept := by
    intro v values hv hread
    cases v with
    | array parts =>
      obtain ⟨read, hitems, hrest⟩ := bind_eq_ok_iff.1 hread
      obtain rfl : read = values := pure_eq_ok_iff.1 hrest
      rw [items_eq_ok_iff, Document.ofItems_eq_map, List.forall₂_map_left_iff] at hitems
      refine ⟨List.forall₂_map_right_iff.2 ?_⟩
      have horder := Json.inOrder_array_iff.1 hv
      exact ((List.forall₂_and_left _ _).2 ⟨horder, hitems⟩).imp fun _ _ hpart => h.kept hpart.1 hpart.2
    | _ => cases hread

theorem map (h : Faithful decode encode Kept) :
    Faithful (Decoder.map decode)
      (fun m => .object (m.entries.map fun entry => (entry.1, encode entry.2)))
      (Json.EachMember Kept) where
  decode_encode := by
    intro d m hd
    have hread := exists_of_mem_map hd
    have hagain : members decode
        (Document.ofMembers (m.entries.map fun entry => (entry.1, encode entry.2))) =
          .ok m.entries := by
      rw [members_eq_ok_iff, Document.ofMembers_eq_map, List.map_map, List.forall₂_map_left_iff,
        List.forall₂_same]
      intro entry hentry
      obtain ⟨e, he⟩ := hread entry hentry
      exact ⟨rfl, h.decode_encode he⟩
    simp only [Document.ofJson, Decoder.map, hagain]
    exact congrArg Except.ok m.ofList_entries
  inOrder_encode := by
    intro d m hd
    refine Json.inOrder_object_iff.2 ⟨m.sorted.map encode, List.forall_mem_map.2 ?_⟩
    intro entry hentry
    obtain ⟨e, he⟩ := exists_of_mem_map hd entry hentry
    exact h.inOrder_encode he
  kept := by
    intro v m hv hread
    cases v with
    | object parts =>
      obtain ⟨read, hmembers, hrest⟩ := bind_eq_ok_iff.1 hread
      obtain rfl : OrderedMap.ofList read = m := pure_eq_ok_iff.1 hrest
      rw [members_eq_ok_iff, Document.ofMembers_eq_map, List.forall₂_map_left_iff] at hmembers
      obtain ⟨hsorted, horder⟩ := Json.inOrder_object_iff.1 hv
      have hkeys : parts.map (·.1) = read.map (·.1) := by
        rw [← List.forall₂_eq_eq_eq, List.forall₂_map_left_iff, List.forall₂_map_right_iff]
        exact hmembers.imp fun _ _ hpart => hpart.1
      rw [OrderedMap.entries_ofList (hsorted.of_keys_eq hkeys)]
      refine ⟨List.forall₂_map_right_iff.2 ?_⟩
      exact ((List.forall₂_and_left _ _).2 ⟨horder, hmembers⟩).imp fun _ _ hpart =>
        ⟨hpart.2.1, h.kept hpart.1 hpart.2.2⟩
    | _ => cases hread

end Faithful

end Decoder

end ImageFlow
