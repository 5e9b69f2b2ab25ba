import ImageFlow.Proofs.Json.IntegerLiteral

/-!
# Reading what is written plainly

Which value a text begins with is told from its first character.  Strings of characters that stand
for themselves are read as they are, and an object whose members are written one after another is
read member by member.  None of this depends on the fuel, as long as there is some left for each
step.
-/

namespace ImageFlow.JsonText

variable {cs rest : List Char} {fuel depth : Nat}

/-! ## The first character of a value -/

theorem readValue_of_quote {quoted : List Char} (h : dropSpaces cs = '"' :: quoted) :
    readValue (fuel + 1) depth cs =
      .scalar ((readString quoted).map fun (s, rest) => (.text s, rest)) := by
  rw [readValue, h]
  rfl

/-- A number begins with the character. -/
def BeginsNumber (c : Char) : Prop :=
  c = '-' ∨ c.isDigit = true

instance (c : Char) : Decidable (BeginsNumber c) :=
  inferInstanceAs (Decidable (_ ∨ _))

theorem BeginsNumber.ne {c other : Char} (h : BeginsNumber c) (hother : ¬BeginsNumber other) :
    c ≠ other := by
  rintro rfl
  exact hother h

theorem BeginsNumber.not_space {c : Char} (h : BeginsNumber c) : isSpace c = false := by
  have hblank : c ≠ ' ' := h.ne (by decide)
  have hline : c ≠ '\n' := h.ne (by decide)
  have htab : c ≠ '\t' := h.ne (by decide)
  have hreturn : c ≠ '\r' := h.ne (by decide)
  simp [isSpace, hblank, hline, htab, hreturn]

theorem readValue_of_number {first : Char} {others : List Char}
    (h : dropSpaces cs = first :: others) (hfirst : BeginsNumber first) :
    readValue (fuel + 1) depth cs =
      .scalar ((readNumber (first :: others)).map fun (n, rest) => (.number n, rest)) := by
  rw [readValue, h]
  split
  case h_8 c after _ _ _ _ _ _ heq =>
    obtain ⟨rfl, rfl⟩ := List.cons.inj heq
    exact if_pos hfirst
  case h_1 heq => cases heq
  all_goals
    next heq => exact absurd (List.cons.inj heq).1 (hfirst.ne (by decide))

theorem BeginsWithInteger.exists_first {n : Int} (h : BeginsWithInteger cs n rest) :
    ∃ first others, cs = first :: others ∧ BeginsNumber first := by
  obtain ⟨literal, hliteral, -, rfl⟩ := h.literal
  cases hliteral with
  | negative hwhole => exact ⟨_, _, rfl, .inl rfl⟩
  | unsigned hwhole =>
      obtain ⟨first, others, rfl⟩ := List.exists_cons_of_ne_nil hwhole.ne_nil
      exact ⟨first, _, rfl, .inr (hwhole.isDigit first List.mem_cons_self)⟩

/-! ## Strings -/

/-- In a string, the character stands for itself. -/
structure StandsForItself (c : Char) : Prop where
  not_quote : c ≠ '"'
  not_escape : c ≠ '\\'
  not_control : 0x20 ≤ c.toNat

instance (c : Char) : Decidable (StandsForItself c) :=
  decidable_of_iff (c ≠ '"' ∧ c ≠ '\\' ∧ 0x20 ≤ c.toNat)
    ⟨fun ⟨hquote, hescape, hcontrol⟩ => ⟨hquote, hescape, hcontrol⟩,
      fun ⟨hquote, hescape, hcontrol⟩ => ⟨hquote, hescape, hcontrol⟩⟩

theorem standsForItself_of_isDigit {c : Char} (h : c.isDigit = true) : StandsForItself c := by
  refine ⟨?_, ?_, ?_⟩
  · rintro rfl
    cases h
  · rintro rfl
    cases h
  · exact Nat.le_trans (by decide) (Char.isDigit_iff_toNat.mp h).1

/-- The characters of a numeral stand for themselves. -/
theorem standsForItself_of_isDecimal {n : Int} (h : Text.IsDecimal cs n) :
    ∀ c ∈ cs, StandsForItself c :=
  h.forall_mem (fun _ => standsForItself_of_isDigit) (by decide) (by decide)

theorem readContent_append (hcs : ∀ c ∈ cs, StandsForItself c) (hfuel : cs.length < fuel)
    (read rest : List Char) :
    readContent fuel read (cs ++ '"' :: rest) = .ok (String.ofList (read.reverse ++ cs), rest) := by
  induction cs generalizing fuel read with
  | nil =>
      obtain ⟨fuel, rfl⟩ := Nat.exists_eq_add_one_of_ne_zero (Nat.ne_zero_of_lt hfuel)
      simp [readContent]
  | cons c cs ih =>
      obtain ⟨fuel, rfl⟩ := Nat.exists_eq_add_one_of_ne_zero (Nat.ne_zero_of_lt hfuel)
      obtain ⟨hc, hrest⟩ := List.forall_mem_cons.mp hcs
      have hcontrol : ¬c.toNat < 0x20 := Nat.not_lt.mpr hc.not_control
      rw [List.cons_append, readContent, if_neg hc.not_quote, if_neg hc.not_escape,
        if_neg hcontrol, ih hrest (Nat.lt_of_succ_lt_succ hfuel)]
      simp

theorem readString_append (hcs : ∀ c ∈ cs, StandsForItself c) (rest : List Char) :
    readString (cs ++ '"' :: rest) = .ok (String.ofList cs, rest) := by
  have hfuel : cs.length < (cs ++ '"' :: rest).length + 1 := by
    rw [List.length_append]
    omega
  exact readContent_append hcs hfuel [] rest

/-! ## Values -/

/-- A value is read from the front of the text, however deep it lies. -/
def ReadsAs (cs : List Char) (document : Document) (rest : List Char) : Prop :=
  ∀ fuel depth, readValue (fuel + 1) depth cs = ⟨document, some rest⟩

theorem readsAs_text (hcs : ∀ c ∈ cs, StandsForItself c) (rest : List Char) :
    ReadsAs ('"' :: (cs ++ '"' :: rest)) (.text (String.ofList cs)) rest := by
  intro fuel depth
  rw [readValue_of_quote rfl, readString_append hcs]
  rfl

theorem readsAs_integer {n : Int} (h : BeginsWithInteger cs n rest) :
    ReadsAs cs (.number (.integer n)) rest := by
  intro fuel depth
  obtain ⟨first, others, rfl, hfirst⟩ := h.exists_first
  have hdrop : dropSpaces (first :: others) = first :: others :=
    List.dropWhile_cons_of_neg (by simp [hfirst.not_space])
  rw [readValue_of_number hdrop hfirst, readNumber_eq_integer_iff.mpr h]
  rfl

/-! ## Objects -/

theorem readMembers_of_readsAs {key value : List Char} {document : Document}
    (hkey : ∀ c ∈ key, StandsForItself c) (hvalue : ReadsAs value document rest) :
    readMembers (fuel + 2) depth ('"' :: (key ++ '"' :: ':' :: value)) =
      readNext (fuel + 1) depth (String.ofList key, document) rest := by
  have hdrop : dropSpaces ('"' :: (key ++ '"' :: ':' :: value)) =
      '"' :: (key ++ '"' :: ':' :: value) := rfl
  have hcolon : expect ':' (dropSpaces (':' :: value)) = .ok value := rfl
  rw [readMembers, hdrop]
  simp only [readString_append hkey, hcolon, hvalue fuel depth]

theorem readMembers_last {key value : List Char} {document : Document}
    (hkey : ∀ c ∈ key, StandsForItself c) (hvalue : ReadsAs value document ('\x7d' :: rest)) :
    readMembers (fuel + 2) depth ('"' :: (key ++ '"' :: ':' :: value)) =
      closed [(String.ofList key, document)] rest := by
  rw [readMembers_of_readsAs hkey hvalue, readNext]
  rfl

theorem readMembers_comma {key value : List Char} {document : Document}
    (hkey : ∀ c ∈ key, StandsForItself c) (hvalue : ReadsAs value document (',' :: rest)) :
    readMembers (fuel + 2) depth ('"' :: (key ++ '"' :: ':' :: value)) =
      .cons (String.ofList key, document) (readMembers fuel depth rest) := by
  rw [readMembers_of_readsAs hkey hvalue, readNext]
  rfl

/-- A text that is an object and nothing else. -/
theorem read_of_readMembers {text : String} {parts : List (String × Document)}
    {members : List Char} (htext : text.toList = '\x7b' :: '"' :: members)
    (hmembers : ∀ fuel, readMembers (fuel + 4) 1 ('"' :: members) = closed parts []) :
    read text = (.object parts none, true) := by
  have hfuel : 3 * text.toList.length + 3 = 3 * members.length + 4 + 4 + 1 := by
    rw [htext, List.length_cons, List.length_cons]
    omega
  have hobject : readValue (3 * text.toList.length + 3) 0 text.toList =
      ⟨.object parts none, some []⟩ := by
    have hopen : dropSpaces ('\x7b' :: '"' :: members) = '\x7b' :: '"' :: members := rfl
    have hquote : dropSpaces ('"' :: members) = '"' :: members := rfl
    have hdepth : ¬maxOpen ≤ 0 := by decide
    rw [hfuel, htext, readValue, hopen]
    simp only [if_neg hdepth, hquote]
    change (⟨.object (readMembers _ 1 _).content.parts (readMembers _ 1 _).content.stop,
      (readMembers _ 1 _).rest⟩ : Reading Document) = _
    rw [hmembers (3 * members.length + 4)]
    rfl
  simp only [read, hobject]
  rfl

end ImageFlow.JsonText
