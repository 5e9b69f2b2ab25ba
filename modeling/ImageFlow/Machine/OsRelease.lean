import ImageFlow.Text.Case
import ImageFlow.Text.Numeral

/-!
# Operating system releases

Releases as they are named on a command line: `centos-7`, `ubuntu-1804`, `rhel-8-byol`.  The case
of letters does not count, and neither do the parts after the second.
-/

namespace ImageFlow

/-- An operating system release; the minor version may be empty. -/
structure OsRelease where
  distro : String
  major : String
  minor : String
  deriving DecidableEq, Inhabited

namespace OsRelease

/-- Cuts a version into major and minor: four figures of an Ubuntu release are the year and the
month, and every other version is all major. -/
def cutVersion (distro version : List Char) : List Char × List Char :=
  if String.ofList distro = "ubuntu" ∧ version.length = 4 then
    (version.take 2, version.drop 2)
  else (version, [])

/-- The release of the first two parts of a name. -/
def ofParts? : List (List Char) → Option OsRelease
  | distro :: version :: _ =>
    if distro ≠ [] ∧ version ≠ [] ∧ version.all Char.isDigit then
      let (major, minor) := cutVersion distro version
      some ⟨String.ofList distro, String.ofList major, String.ofList minor⟩
    else none
  | _ => none

def parse? (name : String) : Option OsRelease :=
  ofParts? ((Text.lowerFrom [] name.toList).splitOn '-')

def display (release : OsRelease) : String :=
  release.distro ++ "-" ++ release.major ++ release.minor

/-- Whether two releases are of one distribution and one major version. -/
def agrees (a b : OsRelease) : Bool :=
  a.distro = b.distro && a.major = b.major

end OsRelease

end ImageFlow
