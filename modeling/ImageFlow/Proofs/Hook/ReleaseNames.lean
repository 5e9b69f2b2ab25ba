import ImageFlow.Hook.Builtin
import ImageFlow.Proofs.Run.HandedOn
import ImageFlow.Proofs.Text.LowerParts
import Mathlib.Logic.Relation

/-!
# Names of releases, and what a release check makes of them

The name that a release is displayed by names it again (`parse?_display`), and which release a name
is of depends on its first two parts in lower case only (`parse?_eq_ofParts?`).  So a release check
leaves every failure as it is unless two names are of different distributions or major versions.
Names that differ in the case of letters, in later parts or in the month of an Ubuntu release never
contradict each other, in whatever combination.
-/

namespace ImageFlow

namespace OsRelease

open Text (lowerFrom)

/-! ## Two parts -/

def ofVersion (distro version : List Char) : OsRelease where
  distro := String.ofList distro
  major := String.ofList (cutVersion distro version).1
  minor := String.ofList (cutVersion distro version).2

/-- A distribution and a version that make up the name of a release. -/
structure IsNamed (distro version : List Char) : Prop where
  distro_ne_nil : distro ≠ []
  version_ne_nil : version ≠ []
  all_isDigit : version.all Char.isDigit = true

theorem ofParts?_eq_some_iff {parts : List (List Char)} {release : OsRelease} :
    ofParts? parts = some release ↔
      ∃ distro version rest, parts = distro :: version :: rest ∧ IsNamed distro version ∧
        ofVersion distro version = release := by
  constructor
  · intro h
    match parts with
    | distro :: version :: rest =>
        rw [ofParts?, Option.ite_none_right_eq_some] at h
        obtain ⟨⟨hdistro, hversion, hdigits⟩, hrelease⟩ := h
        exact ⟨distro, version, rest, rfl, ⟨hdistro, hversion, hdigits⟩, Option.some.inj hrelease⟩
  · rintro ⟨distro, version, rest, rfl, hnamed, rfl⟩
    rw [ofParts?, if_pos ⟨hnamed.distro_ne_nil, hnamed.version_ne_nil, hnamed.all_isDigit⟩]
    rfl

/-- Cutting a version loses no figure. -/
theorem append_cutVersion (distro version : List Char) :
    (cutVersion distro version).1 ++ (cutVersion distro version).2 = version := by
  rw [cutVersion]
  split
  · exact List.take_append_drop 2 version
  · exact List.append_nil version

theorem toList_display_ofVersion (distro version : List Char) :
    (ofVersion distro version).display.toList = distro ++ '-' :: version := by
  have hversion := append_cutVersion distro version
  simp [display, ofVersion, hversion]

theorem isPlain_of_isDigit {c : Char} (h : c.isDigit = true) : Text.IsPlain c := by
  have hall : ∀ n ∈ List.range' 48 10, Text.IsPlain (Char.ofNat n) := by decide
  obtain ⟨hfirst, hlast⟩ := Char.isDigit_iff_toNat.mp h
  have hc := hall c.toNat (List.mem_range'_1.mpr ⟨hfirst, Nat.lt_succ_of_le hlast⟩)
  rwa [Char.ofNat_toNat] at hc

theorem isLowered_of_all_isDigit {version : List Char} (h : version.all Char.isDigit = true) :
    ∀ c ∈ version, Text.IsLowered c := by
  intro c hc
  exact (isPlain_of_isDigit (List.all_eq_true.mp h c hc)).isLowered

theorem hyphen_not_mem_of_all_isDigit {version : List Char}
    (h : version.all Char.isDigit = true) : '-' ∉ version := by
  intro hmem
  have hdigit : '-'.isDigit = true := List.all_eq_true.mp h '-' hmem
  cases hdigit

/-! ## Reading what is displayed -/

theorem splitOn_hyphen_lowerFrom (cs : List Char) :
    (lowerFrom [] cs).splitOn '-' = (cs.splitOn '-').map (lowerFrom []) :=
  Text.splitOn_lowerFrom (by decide) (by decide +kernel) cs

theorem splitOn_hyphen_pair {distro version : List Char} (hdistro : '-' ∉ distro)
    (hversion : '-' ∉ version) : (distro ++ '-' :: version).splitOn '-' = [distro, version] := by
  have hfree : ∀ part ∈ [distro, version], '-' ∉ part := by
    intro part hpart
    rcases List.mem_pair.mp hpart with rfl | rfl
    · exact hdistro
    · exact hversion
  have hjoined : ['-'].intercalate [distro, version] = distro ++ '-' :: version := by simp
  rw [← hjoined]
  exact List.splitOn_intercalate '-' hfree (List.cons_ne_nil _ _)

/-- The name that a release is displayed by is a name of that release. -/
theorem parse?_display {name : String} {release : OsRelease} (h : parse? name = some release) :
    parse? release.display = some release := by
  rw [parse?, ofParts?_eq_some_iff] at h
  obtain ⟨distro, version, rest, hparts, hnamed, rfl⟩ := h
  have hdistro : distro ∈ (lowerFrom [] name.toList).splitOn '-' := by
    rw [hparts]
    exact List.mem_cons_self
  have hlowered : ∀ c ∈ distro ++ '-' :: version, Text.IsLowered c := by
    intro c hc
    rw [List.mem_append, List.mem_cons] at hc
    rcases hc with hc | rfl | hc
    · rw [splitOn_hyphen_lowerFrom] at hdistro
      obtain ⟨part, -, rfl⟩ := List.mem_map.mp hdistro
      exact Text.isLowered_of_mem_lowerFrom hc
    · decide
    · exact isLowered_of_all_isDigit hnamed.all_isDigit c hc
  have hsplit := splitOn_hyphen_pair (Text.not_mem_of_mem_splitOn hdistro)
    (hyphen_not_mem_of_all_isDigit hnamed.all_isDigit)
  rw [parse?, toList_display_ofVersion, Text.lowerFrom_of_isLowered hlowered, hsplit,
    ofParts?_eq_some_iff]
  exact ⟨distro, version, [], rfl, hnamed, rfl⟩

/-! ## What a name depends on -/

/-- The first two parts of a name between its hyphens, in lower case. -/
def namedParts (name : String) : List (List Char) :=
  ((name.toList.splitOn '-').take 2).map (lowerFrom [])

theorem ofParts?_take (parts : List (List Char)) : ofParts? (parts.take 2) = ofParts? parts := by
  match parts with
  | [] => rfl
  | [_] => rfl
  | distro :: version :: rest => rfl

/-- Which release a name is of depends on its first two parts only, and not on their case. -/
theorem parse?_eq_ofParts? (name : String) : parse? name = ofParts? (namedParts name) := by
  rw [parse?, splitOn_hyphen_lowerFrom, ← ofParts?_take, ← List.map_take]
  rfl

/-- What two releases are compared by: the distribution and the major version. -/
def compared (release : OsRelease) : String × String :=
  (release.distro, release.major)

/-- Names that differ in one way that is not compared. -/
inductive Variant : String → String → Prop
  /-- The case of ASCII letters. -/
  | letterCase {a b : String} :
      a.toList.map Char.toLower = b.toList.map Char.toLower → Variant a b
  /-- The parts after the second. -/
  | laterParts {a b : String} :
      (a.toList.splitOn '-').take 2 = (b.toList.splitOn '-').take 2 → Variant a b
  /-- The month of an Ubuntu release, two figures after the two of the year. -/
  | month {a b : String} {distro year month month' : List Char} {rest : List (List Char)} :
      String.ofList (lowerFrom [] distro) = "ubuntu" →
      year.length = 2 → month.length = 2 → month'.length = 2 →
      (year ++ month ++ month').all Char.isDigit = true →
      a.toList.splitOn '-' = distro :: (year ++ month) :: rest →
      b.toList.splitOn '-' = distro :: (year ++ month') :: rest → Variant a b

theorem compared_ofVersion_ubuntu {distro year month : List Char}
    (hdistro : String.ofList distro = "ubuntu") (hyear : year.length = 2)
    (hmonth : month.length = 2) :
    (ofVersion distro (year ++ month)).compared = ("ubuntu", String.ofList year) := by
  have hlength : (year ++ month).length = 4 := by
    rw [List.length_append, hyear, hmonth]
  have hcut : cutVersion distro (year ++ month) = (year, month) := by
    rw [cutVersion, if_pos ⟨hdistro, hlength⟩, List.take_left' hyear, List.drop_left' hyear]
  rw [compared, ofVersion, hcut, hdistro]

/-- An Ubuntu release of four figures is compared by the year. -/
theorem map_compared_of_month {name : String} {distro year month : List Char}
    {rest : List (List Char)} (hdistro : String.ofList (lowerFrom [] distro) = "ubuntu")
    (hyear : year.length = 2) (hmonth : month.length = 2)
    (hdigits : (year ++ month).all Char.isDigit = true)
    (hparts : name.toList.splitOn '-' = distro :: (year ++ month) :: rest) :
    (parse? name).map compared = some ("ubuntu", String.ofList year) := by
  have hversion : lowerFrom [] (year ++ month) = year ++ month :=
    Text.lowerFrom_of_isLowered (isLowered_of_all_isDigit hdigits) []
  have hnamed : IsNamed (lowerFrom [] distro) (year ++ month) := by
    refine ⟨?_, ?_, hdigits⟩
    · intro hnil
      rw [hnil] at hdistro
      exact absurd hdistro (by decide)
    · intro hnil
      rw [(List.append_eq_nil_iff.mp hnil).1] at hyear
      cases hyear
  have hparse : parse? name = some (ofVersion (lowerFrom [] distro) (year ++ month)) := by
    rw [parse?_eq_ofParts?, ofParts?_eq_some_iff]
    refine ⟨lowerFrom [] distro, year ++ month, [], ?_, hnamed, rfl⟩
    rw [namedParts, hparts]
    simp [hversion]
  rw [hparse, Option.map_some, compared_ofVersion_ubuntu hdistro hyear hmonth]

/-- Variants of a name are compared alike. -/
theorem Variant.map_compared_eq {a b : String} (h : Variant a b) :
    (parse? a).map compared = (parse? b).map compared := by
  cases h with
  | letterCase hcase =>
      have hlower : lowerFrom [] a.toList = lowerFrom [] b.toList := by
        rw [← Text.lowerFrom_map_toLower, hcase, Text.lowerFrom_map_toLower]
      rw [parse?, parse?, hlower]
  | laterParts hparts =>
      rw [parse?_eq_ofParts?, parse?_eq_ofParts?, namedParts, namedParts, hparts]
  | month hdistro hyear hmonth hmonth' hdigits ha hb =>
      rw [List.all_append, List.all_append, Bool.and_eq_true, Bool.and_eq_true] at hdigits
      obtain ⟨⟨hyears, hmonths⟩, hmonths'⟩ := hdigits
      have hleft := map_compared_of_month hdistro hyear hmonth (by simp [hyears, hmonths]) ha
      have hright := map_compared_of_month hdistro hyear hmonth' (by simp [hyears, hmonths']) hb
      rw [hleft, hright]

theorem map_compared_eq_of_variants {a b : String} (h : Relation.ReflTransGen Variant a b) :
    (parse? a).map compared = (parse? b).map compared := by
  induction h with
  | refl => rfl
  | tail _ hlast ih => exact ih.trans hlast.map_compared_eq

/-! ## Contradictions -/

/-- Two names do not contradict each other: one of them is no name of a release, or the releases are
of one distribution and one major version. -/
def Compatible (a b : String) : Prop :=
  ∀ left right, parse? a = some left → parse? b = some right →
    left.distro = right.distro ∧ left.major = right.major

theorem agrees_iff {left right : OsRelease} :
    left.agrees right = true ↔ left.distro = right.distro ∧ left.major = right.major := by
  rw [agrees, Bool.and_eq_true, decide_eq_true_eq, decide_eq_true_eq]

theorem compatible_of_map_compared_eq {a b : String}
    (h : (parse? a).map compared = (parse? b).map compared) : Compatible a b := by
  intro left right hleft hright
  rw [hleft, hright] at h
  exact Prod.mk.inj (Option.some.inj h)

end OsRelease

/-! ## The check -/

namespace Builtin

open OsRelease (parse? Compatible Variant)

variable {specified found : String}

theorem mismatch?_of_compatible (h : Compatible specified found) :
    (releaseCheck specified (parse? found)).mismatch? = none := by
  cases hfound : parse? found with
  | none => rfl
  | some detected =>
      cases hspecified : parse? specified with
      | none => simp [mismatch?, hspecified]
      | some named =>
          have hagrees := OsRelease.agrees_iff.mpr (h named detected hspecified hfound)
          simp [mismatch?, hspecified, hagrees]

theorem mismatch?_of_not_compatible (h : ¬Compatible specified found) :
    ∃ detected, parse? found = some detected ∧
      (releaseCheck specified (parse? found)).mismatch? =
        some (.userInput (ReleaseCheck.mismatchMessage specified detected)) := by
  rw [Compatible] at h
  push Not at h
  obtain ⟨named, detected, hspecified, hfound, hdiffer⟩ := h
  have hagrees : named.agrees detected = false := by
    rw [Bool.eq_false_iff, Ne, OsRelease.agrees_iff]
    rintro ⟨hdistro, hmajor⟩
    exact hdiffer hdistro hmajor
  refine ⟨detected, hfound, ?_⟩
  simp [mismatch?, hfound, hspecified, hagrees]

theorem judge_releaseCheck (detected : Option OsRelease) (error : Option WorkflowError) :
    ((releaseCheck specified detected).judge error).value =
      .pass (releaseCheck specified detected)
        (error.map fun error => (releaseCheck specified detected).mismatch?.getD error) := by
  have herror := error_judge (releaseCheck specified detected) error
  rw [judge] at herror ⊢
  rw [← herror]
  rfl

/-- What a release check makes of an outcome, given the name that was specified and the one that
was found: it leaves a success, and a failure unless the names contradict each other, and then it
says so in place of any failure.  It never asks for another attempt. -/
structure ChecksRelease (specified found : String)
    (judge : Option WorkflowError → Verdict Builtin) : Prop where
  success : (judge none).error = none
  never_retries : ∀ outcome, (judge outcome).retry = false
  unchanged_iff : (∀ error, (judge (some error)).error = some error) ↔ Compatible specified found
  replaced : ¬Compatible specified found → ∃ detected, parse? found = some detected ∧
    ∀ error, (judge (some error)).error = some (.userInput
      ("\"" ++ detected.display ++ "\" was detected on your disk, but \"" ++ specified
        ++ "\" was specified. Please verify and re-import"))
  variants : Relation.ReflTransGen Variant specified found →
    ∀ error, (judge (some error)).error = some error

/-- A release is named by the text that it is displayed by, and which one a name is of depends on
the first two parts of the name in lower case.  A release check leaves every failure as it is
exactly if the specified name and the found one are not both names of a release, or of one
distribution and one major version; otherwise it replaces every failure by the contradiction. -/
theorem release_names_and_checks :
    (∀ name release, parse? name = some release → parse? release.display = some release) ∧
    (∀ name, parse? name = OsRelease.ofParts? (OsRelease.namedParts name)) ∧
    (∀ specified found, ChecksRelease specified found fun outcome =>
      ((releaseCheck specified (parse? found)).judge outcome).value) := by
  refine ⟨fun _ _ => OsRelease.parse?_display, OsRelease.parse?_eq_ofParts?, ?_⟩
  intro specified found
  have hkept (hcompatible : Compatible specified found) (error : WorkflowError) :
      ((releaseCheck specified (parse? found)).judge (some error)).value.error = some error := by
    rw [judge_releaseCheck, mismatch?_of_compatible hcompatible]
    rfl
  have hreplaced (hcontradicts : ¬Compatible specified found) :
      ∃ detected, parse? found = some detected ∧
        ∀ error, ((releaseCheck specified (parse? found)).judge (some error)).value.error =
          some (.userInput (ReleaseCheck.mismatchMessage specified detected)) := by
    obtain ⟨detected, hfound, hmismatch⟩ := mismatch?_of_not_compatible hcontradicts
    refine ⟨detected, hfound, fun error => ?_⟩
    rw [judge_releaseCheck, hmismatch]
    rfl
  constructor
  · rw [judge_releaseCheck]
    rfl
  · intro outcome
    rw [judge_releaseCheck]
    rfl
  · refine ⟨fun hall => ?_, hkept⟩
    -- An engine failure is no contradiction, so it tells a replaced failure from a kept one.
    by_contra hcontradicts
    obtain ⟨detected, -, hmessage⟩ := hreplaced hcontradicts
    have hboth := (hall (.engine "" none)).symm.trans (hmessage (.engine "" none))
    cases hboth
  · exact hreplaced
  · intro hvariants
    exact hkept (OsRelease.compatible_of_map_compared_eq
      (OsRelease.map_compared_eq_of_variants hvariants))

/-- A name in another case, with another month and with a further part is compatible; a name of
another distribution is not. -/
theorem release_names_and_checks_ubuntu :
    Relation.ReflTransGen Variant "Ubuntu-1804-minimal" "ubuntu-1810" ∧
    (∀ error, ((releaseCheck "Ubuntu-1804-minimal" (parse? "ubuntu-1810")).judge
      (some error)).value.error = some error) ∧
    ¬Compatible "ubuntu-1804" "CentOS-7" ∧
    (∀ error, ((releaseCheck "ubuntu-1804" (parse? "CentOS-7")).judge (some error)).value.error =
      some (.userInput ("\"centos-7\" was detected on your disk, but \"ubuntu-1804\" was "
        ++ "specified. Please verify and re-import"))) := by
  have hvariants : Relation.ReflTransGen Variant "Ubuntu-1804-minimal" "ubuntu-1810" := by
    have hcase : Variant "Ubuntu-1804-minimal" "ubuntu-1804-minimal" := .letterCase (by decide)
    have hpart : Variant "ubuntu-1804-minimal" "ubuntu-1804" := .laterParts (by decide)
    have hmonth : Variant "ubuntu-1804" "ubuntu-1810" :=
      @Variant.month _ _ "ubuntu".toList ['1', '8'] ['0', '4'] ['1', '0'] [] (by decide) rfl rfl rfl
        (by decide) (by decide) (by decide)
    exact ((Relation.ReflTransGen.single hcase).tail hpart).tail hmonth
  have hfound : parse? "CentOS-7" = some ⟨"centos", "7", ""⟩ := by decide +kernel
  have hspecified : parse? "ubuntu-1804" = some ⟨"ubuntu", "18", "04"⟩ := by decide +kernel
  have hcontradicts : ¬Compatible "ubuntu-1804" "CentOS-7" := by
    intro hcompatible
    have hsame := (hcompatible _ _ hspecified hfound).1
    exact absurd hsame (by decide)
  refine ⟨hvariants, ?_, hcontradicts, ?_⟩
  · exact (release_names_and_checks.2.2 _ _).variants hvariants
  · obtain ⟨detected, hdetected, hmessage⟩ :=
      (release_names_and_checks.2.2 _ _).replaced hcontradicts
    obtain rfl : detected = ⟨"centos", "7", ""⟩ :=
      Option.some.inj (hdetected.symm.trans hfound)
    exact hmessage

end Builtin

end ImageFlow
