import ImageFlow.Hook.Encryption
import ImageFlow.Proofs.Text.Segments

/-!
# Full names of keys

A full name of a key has four free parts, none of which is empty or has a slash.  A name that a
user gives in full is used only in that form.  A name that is put together from an id, a ring, a
location and a project has it exactly when none of them has a slash, which nobody checks; where the
form is missed, the name would be refused if it were asked for in full.
-/

namespace ImageFlow

open Text (SlashFree segments)

namespace KeyRequest

/-- The text can be a free part of a full name. -/
def IsPart (s : String) : Prop :=
  s ≠ "" ∧ SlashFree s

/-- The text is the full name of a key with four such parts. -/
def WellFormed (name : String) : Prop :=
  ∃ project location ring key,
    (∀ s ∈ [project, location, ring, key], IsPart s) ∧
      name = fullName project location ring key

/-- The project of the key: the one that is asked for, or else the default. -/
def projectOr (request : KeyRequest) (defaultProject : String) : String :=
  if request.project.isEmpty then defaultProject else request.project

/-- The request is refused: something is asked for without a key, or a name that has slashes is no
full name, or something is missing beside an id. -/
def Malformed (request : KeyRequest) (defaultProject : String) : Prop :=
  (request.key = "" ∧ ¬(request.ring = "" ∧ request.location = "" ∧ request.project = "")) ∨
    (¬SlashFree request.key ∧ ¬WellFormed request.key) ∨
    (request.key ≠ "" ∧ SlashFree request.key ∧
      (request.ring = "" ∨ request.location = "" ∨ request.projectOr defaultProject = ""))

/-! ## The form of a full name -/

theorem fullName_eq_intercalate (project location ring key : String) :
    fullName project location ring key =
      "/".intercalate
        ["projects", project, "locations", location, "keyRings", ring, "cryptoKeys", key] := by
  apply String.toList_injective
  unfold fullName
  simp

theorem not_slashFree_fullName (project location ring key : String) :
    ¬SlashFree (fullName project location ring key) := by
  unfold fullName
  simp [SlashFree]

theorem slashFree_of_isPart {project location ring key : String}
    (hparts : ∀ s ∈ [project, location, ring, key], IsPart s) :
    ∀ s ∈ ["projects", project, "locations", location, "keyRings", ring, "cryptoKeys", key],
      SlashFree s := by
  simp only [List.forall_mem_cons, IsPart] at hparts ⊢
  obtain ⟨⟨-, hproject⟩, ⟨-, hlocation⟩, ⟨-, hring⟩, ⟨-, hkey⟩, -⟩ := hparts
  exact ⟨by decide, hproject, by decide, hlocation, by decide, hring, by decide, hkey, by simp⟩

theorem isFullName_fullName {project location ring key : String}
    (hparts : ∀ s ∈ [project, location, ring, key], IsPart s) :
    isFullName (fullName project location ring key) = true := by
  have hsegments : segments (fullName project location ring key) =
      ["projects", project, "locations", location, "keyRings", ring, "cryptoKeys", key] := by
    rw [fullName_eq_intercalate]
    exact Text.segments_intercalate (List.cons_ne_nil _ _) (slashFree_of_isPart hparts)
  simp only [segments] at hsegments
  simp only [List.forall_mem_cons, IsPart] at hparts
  obtain ⟨⟨hproject, -⟩, ⟨hlocation, -⟩, ⟨hring, -⟩, ⟨hkey, -⟩, -⟩ := hparts
  simp [isFullName, hsegments, hproject, hlocation, hring, hkey]

theorem wellFormed_of_isFullName {name : String} (h : isFullName name = true) :
    WellFormed name := by
  unfold isFullName at h
  split at h
  case h_1 projects project locations location rings ring keys key hsegments =>
    change segments name = _ at hsegments
    simp only [Bool.and_eq_true, decide_eq_true_eq, Bool.not_eq_true', String.isEmpty_eq_false_iff]
      at h
    obtain ⟨⟨⟨⟨⟨⟨⟨rfl, rfl⟩, rfl⟩, rfl⟩, hproject⟩, hlocation⟩, hring⟩, hkey⟩ := h
    have hfree : ∀ s ∈ segments name, SlashFree s := fun s => Text.slashFree_of_mem_segments
    refine ⟨project, location, ring, key, ?_, ?_⟩
    · rw [hsegments] at hfree
      simp only [List.forall_mem_cons] at hfree ⊢
      simp_all [IsPart]
    · rw [fullName_eq_intercalate, ← hsegments, Text.intercalate_segments]
  case h_2 => exact absurd h Bool.false_ne_true

theorem isFullName_iff {name : String} : isFullName name = true ↔ WellFormed name := by
  refine ⟨wellFormed_of_isFullName, ?_⟩
  rintro ⟨project, location, ring, key, hparts, rfl⟩
  exact isFullName_fullName hparts

/-- A name that is put together has the form exactly when its parts can be parts. -/
theorem wellFormed_fullName_iff {project location ring key : String} :
    WellFormed (fullName project location ring key) ↔
      ∀ s ∈ [project, location, ring, key], IsPart s := by
  constructor
  · rintro ⟨project', location', ring', key', hparts, h⟩
    simp only [fullName_eq_intercalate] at h
    have heq := Text.eq_of_intercalate_eq (by simp) (by simp) (slashFree_of_isPart hparts) h
    simp only [List.cons.injEq, true_and, and_true] at heq
    obtain ⟨rfl, rfl, rfl, rfl⟩ := heq
    exact hparts
  · intro hparts
    exact ⟨project, location, ring, key, hparts, rfl⟩

/-! ## The names that are applied -/

/-- A key with slashes is used as it is if it is a full name, and refused otherwise. -/
theorem name_of_not_slashFree {request : KeyRequest} (defaultProject : String)
    (hkey : ¬SlashFree request.key) :
    request.name defaultProject =
      if isFullName request.key then .ok (some request.key)
      else .error (.malformedName request.key) := by
  have hslash : '/' ∈ request.key.toList := Decidable.not_not.mp hkey
  have hne : request.key ≠ "" := by
    intro h
    simp [h] at hslash
  simp [name, hne, hslash]

/-- An id is put together with its ring, location and project, and refused if one is missing. -/
theorem name_of_slashFree {request : KeyRequest} (defaultProject : String)
    (hne : request.key ≠ "") (hkey : SlashFree request.key) :
    request.name defaultProject =
      if request.ring.isEmpty ∨ request.location.isEmpty then .error (.missingRing request.key)
      else if (request.projectOr defaultProject).isEmpty then .error (.missingProject request.key)
      else .ok (some (fullName (request.projectOr defaultProject) request.location request.ring
        request.key)) := by
  have hslash : '/' ∉ request.key.toList := hkey
  simp [name, hne, hslash, projectOr]

/-- A name that is asked for in full is applied as it is exactly when it is well formed. -/
theorem name_eq_key_iff (request : KeyRequest) (defaultProject : String)
    (hkey : ¬SlashFree request.key) :
    request.name defaultProject = .ok (some request.key) ↔ WellFormed request.key := by
  rw [name_of_not_slashFree defaultProject hkey, ← isFullName_iff]
  cases isFullName request.key <;> simp

theorem exists_name_eq_error_iff {request : KeyRequest} {defaultProject : String} :
    (∃ problem, request.name defaultProject = .error problem) ↔
      request.Malformed defaultProject := by
  by_cases hempty : request.key = ""
  · have hfree : SlashFree "" := by decide
    by_cases hrest : request.ring = "" ∧ request.location = "" ∧ request.project = ""
    · simp [name, Malformed, hempty, hrest, hfree]
    · simp only [name, Malformed, hempty, hfree, hrest, String.isEmpty_iff]
      simp
  · by_cases hkey : SlashFree request.key
    · rw [name_of_slashFree defaultProject hempty hkey]
      simp only [Malformed, hempty, hkey, String.isEmpty_iff]
      by_cases hring : request.ring = ""
      · simp [hring, hempty]
      · by_cases hlocation : request.location = "" <;>
          by_cases hproject : request.projectOr defaultProject = "" <;>
            simp [hring, hlocation, hproject, hempty]
    · rw [name_of_not_slashFree defaultProject hkey]
      simp only [Malformed, hempty, hkey, ← isFullName_iff]
      cases isFullName request.key <;> simp

/-- A name that is applied was asked for in full, or is put together from four texts that are not
empty. -/
theorem name_eq_some_cases {request : KeyRequest} {defaultProject name : String}
    (h : request.name defaultProject = .ok (some name)) :
    (¬SlashFree request.key ∧ WellFormed request.key ∧ name = request.key) ∨
      (IsPart request.key ∧ request.ring ≠ "" ∧ request.location ≠ "" ∧
        request.projectOr defaultProject ≠ "" ∧
        name = fullName (request.projectOr defaultProject) request.location request.ring
          request.key) := by
  by_cases hempty : request.key = ""
  · by_cases hrest : request.ring = "" ∧ request.location = "" ∧ request.project = "" <;>
      simp [KeyRequest.name, hempty, hrest] at h
  · by_cases hkey : SlashFree request.key
    · right
      rw [name_of_slashFree defaultProject hempty hkey] at h
      by_cases hring : request.ring = "" ∨ request.location = ""
      · simp [hring] at h
      · by_cases hproject : request.projectOr defaultProject = ""
        · simp [hring, hproject] at h
        · obtain ⟨hring, hlocation⟩ := not_or.mp hring
          simp only [String.isEmpty_iff, hring, hlocation, hproject, or_self, if_false,
            Except.ok.injEq, Option.some.injEq] at h
          exact ⟨⟨hempty, hkey⟩, hring, hlocation, hproject, h.symm⟩
    · left
      rw [name_of_not_slashFree defaultProject hkey] at h
      cases hfull : isFullName request.key with
      | false => simp [hfull] at h
      | true =>
          simp only [hfull, if_true, Except.ok.injEq, Option.some.injEq] at h
          exact ⟨hkey, isFullName_iff.mp hfull, h.symm⟩

/-- The name that is applied has the form of full names if it was asked for in full.  If it was put
together, it has the form exactly when its ring, location and project have no slash. -/
theorem wellFormed_iff_of_name_eq {request : KeyRequest} {defaultProject name : String}
    (h : request.name defaultProject = .ok (some name)) :
    WellFormed name ↔
      (SlashFree request.key →
        ∀ s ∈ [request.ring, request.location, request.projectOr defaultProject],
          SlashFree s) := by
  rcases name_eq_some_cases h with ⟨hkey, hfull, rfl⟩ | ⟨hkey, hring, hlocation, hproject, rfl⟩
  · exact iff_of_true hfull (absurd · hkey)
  · simp only [wellFormed_fullName_iff, List.forall_mem_cons, IsPart]
    constructor
    · rintro ⟨⟨-, hproject⟩, ⟨-, hlocation⟩, ⟨-, hring⟩, -⟩ -
      exact ⟨hring, hlocation, hproject, by simp⟩
    · intro hfree
      obtain ⟨hring', hlocation', hproject', -⟩ := hfree hkey.2
      exact ⟨⟨hproject, hproject'⟩, ⟨hlocation, hlocation'⟩, ⟨hring, hring'⟩, hkey, by simp⟩

theorem not_slashFree_of_name_eq {request : KeyRequest} {defaultProject name : String}
    (h : request.name defaultProject = .ok (some name)) : ¬SlashFree name := by
  rcases name_eq_some_cases h with ⟨hkey, -, rfl⟩ | ⟨-, -, -, -, rfl⟩
  · exact hkey
  · exact not_slashFree_fullName _ _ _ _

end KeyRequest

/-! ## Keys of jobs -/

namespace Encryption

open KeyRequest (Malformed WellFormed)

/-- A malformed request fails and leaves the job as it was.  A key that is applied has the form of
full names exactly when it was asked for in full or its ring, location and project have no slash,
and exactly then it is applied again when it is asked for in full. -/
theorem applied_key_wellFormed_iff (request : KeyRequest) (job : Job) :
    (request.Malformed job.workflow.project ↔
      ∃ problem, prepare request job = { job, failure := some (.invalidKey problem) }) ∧
    ∀ name, request.name job.workflow.project = .ok (some name) →
      (WellFormed name ↔
        (SlashFree request.key →
          ∀ s ∈ [request.ring, request.location, request.projectOr job.workflow.project],
            SlashFree s)) ∧
      (WellFormed name ↔
        ∀ (again : KeyRequest) (project : String), again.key = name →
          again.name project = .ok (some name)) := by
  refine ⟨?_, fun name hname => ⟨KeyRequest.wellFormed_iff_of_name_eq hname, ?_⟩⟩
  · rw [← KeyRequest.exists_name_eq_error_iff]
    constructor
    · rintro ⟨problem, hproblem⟩
      exact ⟨problem, by simp [prepare, hproblem]⟩
    · rintro ⟨problem, hprepare⟩
      cases hname : request.name job.workflow.project with
      | error problem => exact ⟨problem, rfl⟩
      | ok name =>
          have hfailure := congrArg Preparation.failure hprepare
          cases name <;> simp [prepare, hname, Preparation.ofWorkflow] at hfailure
  · have hslash := KeyRequest.not_slashFree_of_name_eq hname
    constructor
    · rintro hfull again project rfl
      exact (again.name_eq_key_iff project hslash).mpr hfull
    · intro hagain
      exact (KeyRequest.name_eq_key_iff { key := name } "" hslash).mp
        (hagain { key := name } "" rfl)

/-- The request for the key `key` in the ring `ring/other`. -/
def slashedRing : KeyRequest :=
  { key := "key", ring := "ring/other", location := "us", project := "p" }

/-- The key in the ring `ring/other` is applied to a job although its name is not well formed, and
would be refused if it were asked for in full. -/
theorem slashedRing_key_applied :
    slashedRing.name "" =
        .ok (some "projects/p/locations/us/keyRings/ring/other/cryptoKeys/key") ∧
      ¬ ∀ (again : KeyRequest) (project : String),
        again.key = "projects/p/locations/us/keyRings/ring/other/cryptoKeys/key" →
          again.name project =
            .ok (some "projects/p/locations/us/keyRings/ring/other/cryptoKeys/key") := by
  have hname : slashedRing.name "" =
      .ok (some "projects/p/locations/us/keyRings/ring/other/cryptoKeys/key") := rfl
  obtain ⟨hform, hagain⟩ := (applied_key_wellFormed_iff slashedRing { workflow := {} }).2 _ hname
  refine ⟨hname, ?_⟩
  rw [← hagain, hform]
  decide

/-- Not every key that is applied has the form of full names. -/
theorem not_all_applied_keys_wellFormed :
    ¬ ∀ (request : KeyRequest) (defaultProject name : String),
      request.name defaultProject = .ok (some name) → WellFormed name := by
  intro h
  have hfull := h slashedRing "" "projects/p/locations/us/keyRings/ring/other/cryptoKeys/key" rfl
  rw [← KeyRequest.isFullName_iff] at hfull
  exact absurd hfull (by decide)

end Encryption

end ImageFlow
