import ImageFlow.Text.CaseTable
import ImageFlow.Text.Mark

/-!
# Lower and upper case of a text

Case mapping by the full Unicode tables.  One character may become several, and a capital sigma
takes its final form at the end of a word, so lower-casing looks at both sides of it; apart from
that sigma every character is mapped on its own.
-/

namespace ImageFlow.Text

def CaseRun.covers (run : CaseRun) (n : Nat) : Bool :=
  run.first ≤ n && n ≤ run.last && (n - run.first) % run.step == 0

/-- The case form of a character outside ASCII; a character the tables do not list keeps its
form. -/
def tableCase (runs : List CaseRun) (long : List (Nat × List Nat)) (c : Char) : List Char :=
  match long.find? (·.1 == c.toNat) with
  | some (_, form) => form.map Char.ofNat
  | none =>
    match runs.find? (·.covers c.toNat) with
    | some run => [Char.ofNat (c.toNat + run.shift).toNat]
    | none => [c]

/-- The lower-case form of one character, its neighbours aside. -/
def lowerChar (c : Char) : List Char :=
  if c.toNat < 128 then [c.toLower] else tableCase CaseTable.lowerRuns CaseTable.lowerLong c

def upperChar (c : Char) : List Char :=
  if c.toNat < 128 then [c.toUpper] else tableCase CaseTable.upperRuns CaseTable.upperLong c

/-- Whether a character does not count beside letters that have case. -/
def isCaseIgnorable (c : Char) : Bool :=
  isNonspacing c || inRanges CaseTable.caseIgnorableRanges c

/-- Whether a cased letter comes first once the case-ignorable characters are passed over. -/
def startsCased (cs : List Char) : Bool :=
  match cs.dropWhile isCaseIgnorable with
  | [] => false
  | c :: _ => inRanges CaseTable.casedRanges c

/-- A small sigma: the final form when a cased letter stands before it and none after it.
`before` lists the preceding characters, nearest first. -/
def smallSigma (before after : List Char) : Char :=
  if startsCased before && !startsCased after then 'ς' else 'σ'

/-- Lower case of the rest of a text whose already read part, nearest first, is `before`. -/
def lowerFrom (before : List Char) : List Char → List Char
  | [] => []
  | c :: rest =>
    (if c = 'Σ' then [smallSigma before rest] else lowerChar c) ++ lowerFrom (c :: before) rest

def lower (s : String) : String :=
  String.ofList (lowerFrom [] s.toList)

def upper (s : String) : String :=
  String.ofList (s.toList.flatMap upperChar)

/-- An ASCII character that is no capital stays in the lower case of a text. -/
theorem mem_lowerFrom {c : Char} (hc : c.toNat < 128 ∧ c.toLower = c) (before : List Char)
    {cs : List Char} (hmem : c ∈ cs) : c ∈ lowerFrom before cs := by
  induction cs generalizing before with
  | nil => cases hmem
  | cons d rest ih =>
    rcases List.mem_cons.1 hmem with rfl | hrest
    · have hsigma : c ≠ 'Σ' := by
        rintro rfl
        exact absurd hc.1 (by decide)
      simp [lowerFrom, hsigma, lowerChar, hc.1, hc.2]
    · exact List.mem_append_right _ (ih (d :: before) hrest)

end ImageFlow.Text
