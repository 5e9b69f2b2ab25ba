import ImageFlow.Text.Cut
import ImageFlow.Text.Numeral

/-!
# Tables of forms

A table that gives characters their forms, written as a text.  An entry `A=B+C` gives the form of
one code point.  An entry `A-Z=B` gives the forms of a run of them, each as far from `B` as its
code point is from `A`, and `A-Z/2=B` leaves out every second code point.  The numbers are
hexadecimal; blanks and line breaks part the entries.
-/

namespace ImageFlow.Text

/-- Code points `first, first + step, …, last`; `form` is the form of the first. -/
structure FormRun where
  first : Nat
  last : Nat
  step : Nat
  form : List Nat
  deriving DecidableEq, Inhabited

namespace FormRun

def covers (run : FormRun) (n : Nat) : Bool :=
  run.first ≤ n && n ≤ run.last && (n - run.first) % run.step == 0

def formOf (run : FormRun) (n : Nat) : List Char :=
  run.form.map fun code => Char.ofNat (code + (n - run.first))

def ofEntry? (entry : List Char) : Option FormRun := do
  let number := digitsValueIn 16
  let (codes, form) ← cutFirst '=' entry
  let (range, step) := (cutFirst '/' codes).getD (codes, ['1'])
  let (first, last) := (cutFirst '-' range).getD (range, range)
  return ⟨number first, number last, number step, (form.splitOn '+').map number⟩

end FormRun

def readForms (text : String) : List FormRun :=
  let blanks := text.toList.map fun c => if c = '\n' then ' ' else c
  (blanks.splitOn ' ').filterMap FormRun.ofEntry?

/-- The form of a character, if the table lists it. -/
def formIn? (table : List FormRun) (c : Char) : Option (List Char) :=
  (table.find? (·.covers c.toNat)).map (·.formOf c.toNat)

end ImageFlow.Text
