import ImageFlow.Proofs.Cloud.Requests
import ImageFlow.Proofs.Json.ObjectRecord
import ImageFlow.Proofs.Json.PlainText
import ImageFlow.Run.Runner

/-!
# Sizes in gigabytes

A size is read in two ways: from an output of a run, which may have blanks around it and is 0 if it
is no size, and from an answer, which says an integer or the numeral of one, and is refused if it
says anything else.  Both take in exactly the integers of 64 bits, and read the same integer from
its digits.
-/

namespace ImageFlow

open Decoder (FieldForm)
open JsonText (BeginsWithInteger IsIntegerLiteral StandsForItself dropSpaces readString readValue)
open Text (IsDecimal IsInt64 IsPadded)

/-! ## Outputs of a run -/

/-- The size that an output of a run gives. -/
inductive RunReport.GivesSize (report : RunReport) (name : String) : Int → Prop where
  | absent (h : report.outputs.get? name = none) : GivesSize report name 0
  | size {text : String} {core : List Char} {n : Int} (h : report.outputs.get? name = some text)
      (hpadded : IsPadded text.toList core) (hdecimal : IsDecimal core n) (hn : IsInt64 n) :
      GivesSize report name n
  | other {text : String} (h : report.outputs.get? name = some text)
      (hother : ∀ core n, IsPadded text.toList core → IsDecimal core n → ¬IsInt64 n) :
      GivesSize report name 0

theorem RunReport.sizeGb_eq_iff {report : RunReport} {name : String} {size : Int} :
    report.sizeGb name = size ↔ report.GivesSize name size := by
  constructor
  · rintro rfl
    rw [sizeGb]
    cases hget : report.outputs.get? name with
    | none => exact .absent hget
    | some text =>
        rw [Option.bind_some]
        cases hsize : Text.int64? (Text.trim text) with
        | none =>
            refine .other hget fun core n hpadded hdecimal hn => ?_
            have hsome := Text.int64?_trim_eq_some_iff.mpr ⟨⟨core, hpadded, hdecimal⟩, hn⟩
            rw [hsize] at hsome
            cases hsome
        | some n =>
            obtain ⟨⟨core, hpadded, hdecimal⟩, hn⟩ := Text.int64?_trim_eq_some_iff.mp hsize
            exact .size hget hpadded hdecimal hn
  · intro h
    cases h with
    | absent h => simp [sizeGb, h]
    | size h hpadded hdecimal hn =>
        have hsize := Text.int64?_trim_eq_some_iff.mpr ⟨⟨_, hpadded, hdecimal⟩, hn⟩
        simp [sizeGb, h, hsize]
    | @other text h hother =>
        have hnone : Text.int64? (Text.trim text) = none := by
          rw [Option.eq_none_iff_forall_ne_some]
          intro n hsize
          obtain ⟨⟨core, hpadded, hdecimal⟩, hn⟩ := Text.int64?_trim_eq_some_iff.mp hsize
          exact hother core n hpadded hdecimal hn
        simp [sizeGb, h, hnone]

/-! ## Sizes in an answer -/

/-- The value is an integer of 64 bits, or the numeral of one. -/
inductive Json.IsSize : Json → Int → Prop where
  | number {n : Int} (hn : IsInt64 n) : IsSize (.number (.integer n)) n
  | text {s : String} {n : Int} (h : IsDecimal s.toList n) (hn : IsInt64 n) : IsSize (.text s) n

/-- The document has a value, and this is a size. -/
def Document.IsSize (d : Document) (n : Int) : Prop :=
  ∃ v, d.toJson = .ok v ∧ v.IsSize n

theorem Decoder.int64_eq_ok_iff {d : Document} {n : Int} :
    Decoder.int64 d = .ok n ↔ d.IsSize n := by
  rw [int64, bind_eq_ok_iff]
  refine exists_congr fun v => and_congr_right fun _ => ?_
  constructor
  · intro h
    split at h
    · split at h
      · next hfits =>
        obtain rfl := Except.ok.inj h
        exact .number (Text.fitsInt64_iff.mp hfits)
      · cases h
    · split at h
      · next hsome =>
        obtain rfl := Except.ok.inj h
        obtain ⟨hdecimal, hn⟩ := Text.int64?_eq_some_iff.mp hsome
        exact .text hdecimal hn
      · cases h
    · cases h
  · intro h
    cases h with
    | number hn => exact if_pos (Text.fitsInt64_iff.mpr hn)
    | text hdecimal hn => simp only [Text.int64?_eq_some_iff.mpr ⟨hdecimal, hn⟩]

/-- A text begins with a size: an integer literal, or a string that is the numeral of an integer. -/
inductive BeginsWithSize (cs : List Char) (n : Int) : Prop where
  | number {rest : List Char} (h : BeginsWithInteger (dropSpaces cs) n rest) (hn : IsInt64 n)
  | text {quoted rest : List Char} {s : String} (h : dropSpaces cs = '"' :: quoted)
      (hread : readString quoted = .ok (s, rest)) (hdecimal : IsDecimal s.toList n)
      (hn : IsInt64 n)

/-- Whether a document can have a number or a text for a value. -/
def Document.isScalar : Document → Bool
  | .number _ => true
  | .text _ => true
  | .passable .. => true
  | _ => false

theorem Document.IsSize.isScalar {d : Document} {n : Int} (h : d.IsSize n) : d.isScalar = true := by
  obtain ⟨v, hv, hsize⟩ := h
  cases d with
  | number | text | passable => rfl
  | null | bool =>
      obtain rfl := Except.ok.inj hv
      cases hsize
  | broken => cases hv
  | array items stop =>
      obtain ⟨values, -, hrest⟩ := bind_eq_ok_iff.mp hv
      obtain ⟨-, -, hpure⟩ := bind_eq_ok_iff.mp hrest
      obtain rfl := pure_eq_ok_iff.mp hpure
      cases hsize
  | object members stop =>
      obtain ⟨values, -, hrest⟩ := bind_eq_ok_iff.mp hv
      obtain ⟨-, -, hpure⟩ := bind_eq_ok_iff.mp hrest
      obtain rfl := pure_eq_ok_iff.mp hpure
      cases hsize

theorem Document.isSize_text_iff {s : String} {n : Int} :
    (Document.text s).IsSize n ↔ IsDecimal s.toList n ∧ IsInt64 n := by
  constructor
  · rintro ⟨v, hv, hsize⟩
    obtain rfl := Except.ok.inj hv
    cases hsize with
    | text hdecimal hn => exact ⟨hdecimal, hn⟩
  · rintro ⟨hdecimal, hn⟩
    exact ⟨.text s, rfl, .text hdecimal hn⟩

theorem Document.isSize_number_iff {number : Number} {n : Int} :
    (Document.number number).IsSize n ↔ number = .integer n ∧ IsInt64 n := by
  constructor
  · rintro ⟨v, hv, hsize⟩
    obtain rfl := Except.ok.inj hv
    cases hsize with
    | number hn => exact ⟨rfl, hn⟩
  · rintro ⟨rfl, hn⟩
    exact ⟨.number (.integer n), rfl, .number hn⟩

namespace JsonText

variable {fuel depth : Nat} {cs : List Char} {n : Int}

theorem isSize_scalar_iff {outcome : Except JsonProblem (Document × List Char)} :
    (Reading.scalar outcome).content.IsSize n ↔
      ∃ d rest, outcome = .ok (d, rest) ∧ d.IsSize n := by
  cases outcome with
  | error problem =>
      constructor
      · exact fun h => absurd h.isScalar Bool.false_ne_true
      · rintro ⟨_, _, herror, -⟩
        cases herror
  | ok read =>
      constructor
      · exact fun h => ⟨read.1, read.2, rfl, h⟩
      · rintro ⟨_, _, hread, hsize⟩
        obtain rfl := Except.ok.inj hread
        exact hsize

/-- What begins neither a string nor a number is no size. -/
theorem not_isSize_readValue_of_other
    (hcs : ∀ first ∈ (dropSpaces cs).head?, first ≠ '"' ∧ ¬BeginsNumber first) :
    ¬(readValue (fuel + 1) depth cs).content.IsSize n := by
  have hliteral {d : Document} (hd : d.isScalar = false)
      (outcome : Except JsonProblem (List Char)) :
      ¬(Reading.scalar (outcome.map (d, ·))).content.IsSize n := by
    rw [isSize_scalar_iff]
    rintro ⟨_, _, hread, hsize⟩
    obtain ⟨_, -, hpair⟩ := map_eq_ok_iff.mp hread
    obtain ⟨rfl, -⟩ := Prod.mk.inj hpair
    rw [hsize.isScalar] at hd
    cases hd
  have hcontainer {d : Document} (hd : d.isScalar = false) : ¬d.IsSize n := by
    intro h
    rw [h.isScalar] at hd
    cases hd
  rw [readValue]
  split
  case h_1 => exact hcontainer rfl
  case h_2 | h_3 | h_4 => exact hliteral rfl _
  case h_5 heq =>
    rw [heq] at hcs
    exact absurd rfl (hcs '"' rfl).1
  case h_6 =>
    split
    · exact hcontainer rfl
    · split <;> exact hcontainer rfl
  case h_7 =>
    split
    · exact hcontainer rfl
    · split <;> exact hcontainer rfl
  case h_8 heq =>
    rw [heq] at hcs
    split
    next hfirst => exact absurd hfirst (hcs _ rfl).2
    next => exact hcontainer rfl

theorem isSize_readValue_of_quote {quoted : List Char} (hcs : dropSpaces cs = '"' :: quoted) :
    (readValue (fuel + 1) depth cs).content.IsSize n ↔ BeginsWithSize cs n := by
  rw [readValue_of_quote hcs, isSize_scalar_iff]
  constructor
  · rintro ⟨_, _, hread, hsize⟩
    obtain ⟨⟨s, rest⟩, hstring, hpair⟩ := map_eq_ok_iff.mp hread
    obtain ⟨rfl, rfl⟩ := Prod.mk.inj hpair
    obtain ⟨hdecimal, hn⟩ := Document.isSize_text_iff.mp hsize
    exact .text hcs hstring hdecimal hn
  · intro h
    cases h with
    | number h hn =>
        obtain ⟨first, others, hfirst, hnumber⟩ := h.exists_first
        obtain ⟨rfl, -⟩ := List.cons.inj (hcs.symm.trans hfirst)
        exact absurd hnumber (by decide)
    | @text quoted rest s h hstring hdecimal hn =>
        obtain ⟨-, rfl⟩ := List.cons.inj (hcs.symm.trans h)
        refine ⟨.text s, rest, ?_, Document.isSize_text_iff.mpr ⟨hdecimal, hn⟩⟩
        rw [hstring]
        rfl

theorem isSize_readValue_of_number {first : Char} {others : List Char}
    (hcs : dropSpaces cs = first :: others) (hfirst : BeginsNumber first) :
    (readValue (fuel + 1) depth cs).content.IsSize n ↔ BeginsWithSize cs n := by
  rw [readValue_of_number hcs hfirst, ← hcs, isSize_scalar_iff]
  constructor
  · rintro ⟨_, _, hread, hsize⟩
    obtain ⟨⟨number, rest⟩, hnumber, hpair⟩ := map_eq_ok_iff.mp hread
    obtain ⟨rfl, rfl⟩ := Prod.mk.inj hpair
    obtain ⟨rfl, hn⟩ := Document.isSize_number_iff.mp hsize
    exact .number (readNumber_eq_integer_iff.mp hnumber) hn
  · intro h
    cases h with
    | @number rest h hn =>
        refine ⟨.number (.integer n), rest, ?_, Document.isSize_number_iff.mpr ⟨rfl, hn⟩⟩
        rw [readNumber_eq_integer_iff.mpr h]
        rfl
    | text h =>
        obtain ⟨rfl, -⟩ := List.cons.inj (hcs.symm.trans h)
        exact absurd hfirst (by decide)

/-- A value that is read from a text is a size exactly if it is written as one. -/
theorem isSize_readValue_iff :
    (readValue (fuel + 1) depth cs).content.IsSize n ↔ BeginsWithSize cs n := by
  by_cases hbegins : ∃ first ∈ (dropSpaces cs).head?, first = '"' ∨ BeginsNumber first
  · obtain ⟨first, hfirst, hbegins⟩ := hbegins
    obtain ⟨others, hcs⟩ := List.head?_eq_some_iff.mp hfirst
    rcases hbegins with rfl | hnumber
    · exact isSize_readValue_of_quote hcs
    · exact isSize_readValue_of_number hcs hnumber
  · have hother : ∀ first ∈ (dropSpaces cs).head?, first ≠ '"' ∧ ¬BeginsNumber first :=
      fun first hfirst => not_or.mp fun h => hbegins ⟨first, hfirst, h⟩
    refine iff_of_false (not_isSize_readValue_of_other hother) fun h => hbegins ?_
    rcases h with ⟨h, -⟩ | ⟨h, -, -, -⟩
    · obtain ⟨first, others, hcs, hnumber⟩ := h.exists_first
      exact ⟨first, List.head?_eq_some_iff.mpr ⟨others, hcs⟩, .inr hnumber⟩
    · exact ⟨'"', List.head?_eq_some_iff.mpr ⟨_, h⟩, .inl rfl⟩

end JsonText

namespace StoredDisk

def forms : List (FieldForm StoredDisk) :=
  [ { key := "name", inner := Decoder.text, absence := .refused, get := StoredDisk.name
      put := fun v d => { d with name := v }, write := fun v => some (.text v) }
  , { key := "diskSizeGb", inner := Decoder.int64, get := StoredDisk.sizeGb
      put := fun v d => { d with sizeGb := v }
      write := fun v => some (.number (.integer v)) } ]

theorem independent_forms : Decoder.Independent forms := by
  constructor
  · simp [forms]
  · simp [forms, FieldForm.apart_iff]

theorem decode_object (parts : List (String × Document)) (stop : Option JsonProblem) :
    decode (.object parts stop) =
      Decoder.takeObject (forms.map FieldForm.toField) Decoder.ignore ⟨"", 0⟩ parts stop := by
  rfl

/-- The members of an object describe an image or a snapshot: its name, which is a text, and its
size, which may be left out.  Nothing else matters, as long as it can be passed over. -/
structure DescribedBy (disk : StoredDisk) (parts : List (String × Document)) : Prop where
  name : ∃ d, Entries.valuesAt "name" parts = [d] ∧ Decoder.text d = .ok disk.name
  size : Entries.valuesAt "diskSizeGb" parts = [] ∧ disk.sizeGb = 0 ∨
    ∃ d, Entries.valuesAt "diskSizeGb" parts = [d] ∧ d.IsSize disk.sizeGb
  others : ∀ part ∈ parts, part.1 ≠ "name" → part.1 ≠ "diskSizeGb" → part.2.pass = .ok ()

theorem decode_object_eq_ok_iff {parts : List (String × Document)} {stop : Option JsonProblem}
    {disk : StoredDisk} :
    decode (.object parts stop) = .ok disk ↔ stop = none ∧ disk.DescribedBy parts := by
  have hext : ∀ other : StoredDisk, (∀ f ∈ forms, f.get other = f.get disk) → other = disk := by
    intro other hfields
    simp only [forms, List.forall_mem_cons, List.not_mem_nil] at hfields
    obtain ⟨hname, hsize, -⟩ := hfields
    obtain ⟨⟩ := other
    cases hname
    cases hsize
    rfl
  rw [decode_object, Decoder.takeObject_ignore_eq_ok_iff independent_forms hext]
  refine and_congr_right fun _ => ?_
  simp only [forms, List.forall_mem_cons, FieldForm.givenBy_iff]
  constructor
  · rintro ⟨⟨hname, hsize, -⟩, hothers⟩
    refine ⟨hname.resolve_left fun h => h.2.1 rfl, ?_, ?_⟩
    · rcases hsize with ⟨hnone, -, hzero⟩ | ⟨d, hd, hdecoded⟩
      · exact .inl ⟨hnone, hzero⟩
      · exact .inr ⟨d, hd, Decoder.int64_eq_ok_iff.mp hdecoded⟩
    · intro part hpart hname hsize
      exact hothers part hpart ⟨hname, hsize, fun _ hf => absurd hf List.not_mem_nil⟩
  · rintro ⟨hname, hsize, hothers⟩
    refine ⟨⟨.inr hname, ?_, fun _ hf => absurd hf List.not_mem_nil⟩, ?_⟩
    · rcases hsize with ⟨hnone, hzero⟩ | ⟨d, hd, hsize⟩
      · exact .inl ⟨hnone, nofun, hzero⟩
      · exact .inr ⟨d, hd, Decoder.int64_eq_ok_iff.mpr hsize⟩
    · rintro part hpart ⟨hname, hsize, -⟩
      exact hothers part hpart hname hsize

end StoredDisk

/-! ## Both readings of the digits -/

/-- The text of an answer that gives a name and a size. -/
def sizedAnswer (name value : String) : String :=
  "\x7b\"name\":\"" ++ name ++ "\",\"diskSizeGb\":" ++ value ++ "\x7d"

theorem toList_sizedAnswer (name value : String) :
    (sizedAnswer name value).toList =
      '\x7b' :: '"' :: ("name".toList ++ '"' :: ':' :: '"' :: (name.toList ++ '"' :: ',' :: '"' ::
        ("diskSizeGb".toList ++ '"' :: ':' :: (value.toList ++ ['\x7d'])))) := by
  simp [sizedAnswer]

theorem decode_sizedAnswer {name value : String} {d : Document} {n : Int}
    (hname : ∀ c ∈ name.toList, StandsForItself c)
    (hvalue : JsonText.ReadsAs (value.toList ++ ['\x7d']) d ['\x7d']) (hsize : d.IsSize n) :
    Decoder.ofText StoredDisk.decode (sizedAnswer name value) = .ok ⟨name, n⟩ := by
  have hplain : ∀ key ∈ ["name", "diskSizeGb"], key.toList.all (StandsForItself ·) = true := by
    decide
  have hkeys : ∀ key ∈ ["name", "diskSizeGb"], ∀ c ∈ key.toList, StandsForItself c :=
    fun key hkey c hc => of_decide_eq_true (List.all_eq_true.mp (hplain key hkey) c hc)
  have hread : JsonText.read (sizedAnswer name value) =
      (.object [("name", .text name), ("diskSizeGb", d)] none, true) := by
    apply JsonText.read_of_readMembers (toList_sizedAnswer name value)
    intro fuel
    rw [JsonText.readMembers_comma (hkeys "name" (by decide)) (JsonText.readsAs_text hname _),
      JsonText.readMembers_last (hkeys "diskSizeGb" (by decide)) hvalue]
    simp only [String.ofList_toList]
    rfl
  have hdescribed : StoredDisk.DescribedBy ⟨name, n⟩ [("name", .text name), ("diskSizeGb", d)] := by
    have hvalues : Entries.valuesAt "name" [("name", Document.text name), ("diskSizeGb", d)] =
        [.text name] := by simp [Entries.valuesAt]
    have hsizes : Entries.valuesAt "diskSizeGb" [("name", .text name), ("diskSizeGb", d)] =
        [d] := by simp [Entries.valuesAt]
    exact ⟨⟨_, hvalues, rfl⟩, .inr ⟨d, hsizes, hsize⟩, by simp⟩
  rw [Decoder.ofText_eq_ok_iff, hread]
  exact ⟨rfl, StoredDisk.decode_object_eq_ok_iff.mpr ⟨rfl, hdescribed⟩⟩

/-- An integer is read from its digits wherever they stand. -/
structure ReadAlike (n : Int) : Prop where
  output : ∀ (report : RunReport) (name : String),
    report.outputs.get? name = some (toString n) → report.sizeGb name = n
  number : ∀ name : String, (∀ c ∈ name.toList, StandsForItself c) →
    Decoder.ofText StoredDisk.decode (sizedAnswer name (toString n)) = .ok ⟨name, n⟩
  text : ∀ name : String, (∀ c ∈ name.toList, StandsForItself c) →
    Decoder.ofText StoredDisk.decode (sizedAnswer name ("\"" ++ toString n ++ "\"")) =
      .ok ⟨name, n⟩

theorem readAlike_of_isInt64 {n : Int} (hn : IsInt64 n) : ReadAlike n where
  output report name hget := by
    have hpadded : IsPadded (toString n).toList (toString n).toList :=
      ⟨[], [], by simp, by simp, by simp⟩
    exact RunReport.sizeGb_eq_iff.mpr (.size hget hpadded (Text.isDecimal_toString n) hn)
  number name hname := by
    have hends : JsonText.EndsInteger ['\x7d'] := by
      refine ⟨?_, by decide, by decide⟩
      rintro c ⟨⟩
      decide
    obtain ⟨hliteral, hzero⟩ := JsonText.isIntegerLiteral_toString n
    have hbegins : BeginsWithInteger ((toString n).toList ++ ['\x7d']) n ['\x7d'] :=
      ⟨⟨(toString n).toList, hliteral, hzero, rfl⟩, hends, hn.1, by
        have hupper := hn.2
        omega⟩
    exact decode_sizedAnswer hname (JsonText.readsAs_integer hbegins)
      (Document.isSize_number_iff.mpr ⟨rfl, hn⟩)
  text name hname := by
    have hdecimal := Text.isDecimal_toString n
    have hread := JsonText.readsAs_text (JsonText.standsForItself_of_isDecimal hdecimal) ['\x7d']
    rw [String.ofList_toList] at hread
    refine decode_sizedAnswer hname ?_ (Document.isSize_text_iff.mpr ⟨hdecimal, hn⟩)
    simpa using hread

/-! ## The two readings -/

/-- Sizes of 64 bits are read exactly, or not at all.  An output of a run is a size if it is the
numeral of one with blanks around it, and everything else counts as 0.  An answer that is an object
is decoded exactly if its name is a text, its size is left out, an integer or a numeral without
blanks, neither is given twice, and all other members can be passed over; otherwise it fails as
a whole.  A value in the text is such a size exactly if it is written as an integer literal, and not
as `-0`, or as a string that is a numeral.  From the digits of an integer both read the integer. -/
theorem sizes_read_exactly :
    (∀ (report : RunReport) (name : String) (size : Int),
      report.sizeGb name = size ↔ report.GivesSize name size) ∧
    (∀ (response : HttpResponse) (parts : List (String × Document)) (stop : Option JsonProblem)
        (complete : Bool), response.Succeeds →
      JsonText.read response.body = (.object parts stop, complete) →
      (∀ disk, response.content StoredDisk.decode = .ok disk ↔
        complete = true ∧ stop = none ∧ disk.DescribedBy parts) ∧
      ((∀ disk : StoredDisk, ¬(complete = true ∧ stop = none ∧ disk.DescribedBy parts)) →
        response.content StoredDisk.decode = .error .network)) ∧
    (∀ (fuel depth : Nat) (cs : List Char) (n : Int),
      (readValue (fuel + 1) depth cs).content.IsSize n ↔ BeginsWithSize cs n) ∧
    ∀ n, IsInt64 n → ReadAlike n := by
  refine ⟨fun _ _ _ => RunReport.sizeGb_eq_iff, ?_, fun _ _ _ _ => JsonText.isSize_readValue_iff,
    fun _ hn => readAlike_of_isInt64 hn⟩
  intro response parts stop complete hsucceeds hread
  have hcontent (disk : StoredDisk) : Decoder.ofText StoredDisk.decode response.body = .ok disk ↔
      complete = true ∧ stop = none ∧ disk.DescribedBy parts := by
    rw [Decoder.ofText_eq_ok_iff, hread, StoredDisk.decode_object_eq_ok_iff]
  constructor
  · intro disk
    rw [HttpResponse.content_eq_ok_iff, and_iff_right hsucceeds, hcontent]
  · intro hnone
    apply HttpResponse.content_of_undecodable hsucceeds
    intro disk hdecoded
    exact hnone disk ((hcontent disk).mp hdecoded)

/-- An answer whose size is `null`. -/
def nullSized : HttpResponse :=
  { status := 200, body := sizedAnswer "i" "null" }

/-- The least integer of 64 bits is read alike, and a size that is `null` is refused. -/
theorem null_size_refused :
    IsInt64 (-9223372036854775808) ∧ ReadAlike (-9223372036854775808) ∧ nullSized.Succeeds ∧
      JsonText.read nullSized.body =
        (.object [("name", .text "i"), ("diskSizeGb", .null)] none, true) ∧
      nullSized.content StoredDisk.decode = .error .network := by
  have hread : JsonText.read nullSized.body =
      (.object [("name", .text "i"), ("diskSizeGb", .null)] none, true) := by cbv
  have hnull (disk : StoredDisk) :
      ¬disk.DescribedBy [("name", .text "i"), ("diskSizeGb", .null)] := by
    intro h
    have hsizes : Entries.valuesAt "diskSizeGb" [("name", .text "i"), ("diskSizeGb", .null)] =
        [Document.null] := by simp [Entries.valuesAt]
    have hsize := h.size
    rw [hsizes] at hsize
    obtain ⟨hnone, -⟩ | ⟨d, hd, hsize⟩ := hsize
    · cases hnone
    · obtain rfl := List.singleton_inj.mp hd
      exact absurd hsize.isScalar Bool.false_ne_true
  exact ⟨by decide, sizes_read_exactly.2.2.2 _ (by decide), by decide, hread,
    (sizes_read_exactly.2.1 nullSized _ _ _ (by decide) hread).2 fun disk h => hnull disk h.2.2⟩

/-- Of the integer literals of 64 bits one is no size: the zero with a minus is read as a number
that is no integer, and an answer that says it is refused. -/
theorem minus_zero_refused :
    IsIntegerLiteral "-0".toList 0 ∧ IsInt64 0 ∧
      Decoder.ofText StoredDisk.decode (sizedAnswer "i" "-0") = .error .mismatch := by
  have hzero : JsonText.IsWhole ['0'] 0 := JsonText.isWhole_toDigits 0
  exact ⟨.negative hzero, by decide, by decide +kernel⟩

end ImageFlow
