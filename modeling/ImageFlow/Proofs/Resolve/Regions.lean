import ImageFlow.Proofs.Text.Lower
import ImageFlow.Proofs.Text.Segments
import ImageFlow.Resolve.Location

/-!
# Regions and the zones in them

A zone lies in a region when its name is the region, a dash and a letter.  A region with one dash in
it is found from a zone in two ways that agree: by cutting the name at its last dash, and by testing
what the name begins with.  The region that stands for a storage location has one dash too, and is
within the same widest location.
-/

namespace ImageFlow.Location

/-! ## Cutting a zone -/

theorem isZoneLetter_ne_dash {letter : Char} (h : isZoneLetter letter = true) : letter ≠ '-' := by
  rintro rfl
  exact absurd h (by decide)

/-- The region of a zone is what the zone is put together from, with a dash and a letter. -/
theorem regionOfZone_eq_ok_iff {zone region : String} :
    regionOfZone zone = .ok region ↔
      '-' ∈ region.toList ∧
        ∃ letter, isZoneLetter letter = true ∧ zone.toList = region.toList ++ ['-', letter] := by
  constructor
  · intro h
    rw [regionOfZone] at h
    split at h
    next front letter hcut =>
      split at h
      next hform =>
        obtain rfl := Except.ok.inj h
        obtain ⟨hzone, -⟩ := Text.cutLast_eq_some_iff.mp hcut
        refine ⟨by simpa using hform.2, letter, hform.1, ?_⟩
        rw [hzone, String.toList_ofList]
      next => cases h
    next => cases h
  · rintro ⟨hdash, letter, hletter, hzone⟩
    have hcut : Text.cutLast '-' zone.toList = some (region.toList, [letter]) := by
      apply Text.cutLast_eq_some_iff.mpr
      refine ⟨hzone, ?_⟩
      rw [List.mem_singleton]
      exact (isZoneLetter_ne_dash hletter).symm
    simp [regionOfZone, hcut, hletter, hdash]

/-- A zone has a character other than dashes and letters exactly when its region has. -/
theorem mem_zone_iff {zone region : String} (h : regionOfZone zone = .ok region) {c : Char}
    (hc : c ≠ '-') (hletter : isZoneLetter c = false) : c ∈ zone.toList ↔ c ∈ region.toList := by
  obtain ⟨-, letter, hzoneLetter, hzone⟩ := regionOfZone_eq_ok_iff.mp h
  have hne : c ≠ letter := by
    rintro rfl
    rw [hletter] at hzoneLetter
    cases hzoneLetter
  simp [hzone, hc, hne]

/-! ## Regions with one dash -/

/-- The text has the form of a region: exactly one dash. -/
def IsRegion (s : String) : Prop :=
  s.toList.count '-' = 1

instance (s : String) : Decidable (IsRegion s) :=
  inferInstanceAs (Decidable (_ = _))

theorem IsRegion.dash_mem {s : String} (h : IsRegion s) : '-' ∈ s.toList := by
  have hcount : s.toList.count '-' = 1 := h
  rw [← List.count_pos_iff, hcount]
  exact Nat.one_pos

/-- The text has the form of a zone: a region, a dash and a letter. -/
def IsZone (s : String) : Prop :=
  ∃ region letter, IsRegion region ∧ isZoneLetter letter = true ∧
    s.toList = region.toList ++ ['-', letter]

theorem isZone_iff {s : String} :
    IsZone s ↔ ∃ region ∈ (regionOfZone s).toOption, IsRegion region := by
  constructor
  · rintro ⟨region, letter, hregion, hletter, hs⟩
    have hok : regionOfZone s = .ok region :=
      regionOfZone_eq_ok_iff.mpr ⟨hregion.dash_mem, letter, hletter, hs⟩
    exact ⟨region, by rw [hok]; rfl, hregion⟩
  · rintro ⟨region, hmem, hregion⟩
    cases hok : regionOfZone s with
    | error =>
        rw [hok] at hmem
        cases hmem
    | ok found =>
        rw [hok] at hmem
        obtain rfl := Option.some.inj hmem
        obtain ⟨-, letter, hletter, hs⟩ := regionOfZone_eq_ok_iff.mp hok
        exact ⟨found, letter, hregion, hletter, hs⟩

instance (s : String) : Decidable (IsZone s) :=
  decidable_of_iff' _ isZone_iff

theorem isRegion_lower_iff {s : String} : IsRegion (Text.lower s) ↔ IsRegion s := by
  rw [IsRegion, IsRegion, Text.count_lower (by decide)]

/-- A zone begins with a region and a dash exactly when it lies in the region. -/
theorem dash_prefix_iff {region zone : String} (hregion : IsRegion region) (hzone : IsZone zone) :
    (region ++ "-").toList <+: zone.toList ↔ regionOfZone zone = .ok region := by
  obtain ⟨place, letter, hplace, hletter, hname⟩ := hzone
  rw [regionOfZone_eq_ok_iff, String.toList_append]
  constructor
  · rintro ⟨rest, hrest⟩
    have hcut : region.toList ++ '-' :: rest = place.toList ++ '-' :: [letter] := by
      rw [← hname, ← hrest]
      simp
    -- Both sides have two dashes, so none is left behind the one that is tested for.
    have hcount : rest.count '-' = [letter].count '-' := by
      have hdashes := congrArg (List.count '-') hcut
      rw [List.count_append, List.count_append, List.count_cons_self, List.count_cons_self,
        show region.toList.count '-' = 1 from hregion,
        show place.toList.count '-' = 1 from hplace] at hdashes
      omega
    obtain ⟨hsame, -⟩ := Text.append_cons_inj_of_count hcount hcut
    exact ⟨hregion.dash_mem, letter, hletter, by rw [hname, hsame]⟩
  · rintro ⟨-, letter', -, hname'⟩
    exact ⟨[letter'], by rw [hname']; simp⟩

/-- A usable zone is one in use in the region. -/
theorem isUsable_iff {region : String} {zone : Zone} (hregion : IsRegion region)
    (hzone : IsZone zone.name) :
    isUsable region zone = true ↔
      zone.status = upStatus ∧ regionOfZone zone.name = .ok region := by
  rw [isUsable, Bool.and_eq_true, decide_eq_true_eq, List.isPrefixOf_iff_prefix,
    dash_prefix_iff hregion hzone]

/-! ## Storage locations -/

/-- The places where a bucket can lie: the three multi-regions and the regions. -/
def IsPlace (s : String) : Prop :=
  s ∈ ["us", "eu", "asia"] ∨ IsRegion s

theorem representativeRegion_eq_or (location : String) :
    Text.lower location = "us" ∧ representativeRegion location = defaultRegion ∨
      Text.lower location = "eu" ∧ representativeRegion location = "europe-west1" ∨
      Text.lower location = "asia" ∧ representativeRegion location = "asia-east1" ∨
      Text.lower location ∉ ["us", "eu", "asia"] ∧
        representativeRegion location = Text.lower location := by
  rw [representativeRegion]
  split
  case h_1 h => exact .inl ⟨h, rfl⟩
  case h_2 h => exact .inr (.inl ⟨h, rfl⟩)
  case h_3 h => exact .inr (.inr (.inl ⟨h, rfl⟩))
  case h_4 hus heu hasia =>
    refine .inr (.inr (.inr ⟨?_, rfl⟩))
    simp only [List.mem_cons, List.not_mem_nil, or_false, not_or]
    exact ⟨hus, heu, hasia⟩

theorem representativeRegion_lower (location : String) :
    representativeRegion (Text.lower location) = representativeRegion location := by
  rw [representativeRegion, representativeRegion, Text.lower_lower]

theorem largestStorageLocation_lower (region : String) :
    largestStorageLocation (Text.lower region) = largestStorageLocation region := by
  rw [largestStorageLocation, largestStorageLocation, Text.lower_lower]

/-- The region that stands for a location is within the same widest location. -/
theorem largestStorageLocation_representativeRegion (location : String) :
    largestStorageLocation (representativeRegion location) = largestStorageLocation location := by
  have hlower := largestStorageLocation_lower location
  rcases representativeRegion_eq_or location with
    ⟨h, hregion⟩ | ⟨h, hregion⟩ | ⟨h, hregion⟩ | ⟨-, hregion⟩
  · rw [hregion, ← hlower, h]
    decide
  · rw [hregion, ← hlower, h]
    decide
  · rw [hregion, ← hlower, h]
    decide
  · rw [hregion, hlower]

/-- The region that stands for a place has the form of a region, whatever the case of the place. -/
theorem isRegion_representativeRegion {location place : String}
    (hcase : Text.lower location = Text.lower place) (hplace : IsPlace place) :
    IsRegion (representativeRegion location) := by
  rcases representativeRegion_eq_or location with
    ⟨-, hregion⟩ | ⟨-, hregion⟩ | ⟨-, hregion⟩ | ⟨hother, hregion⟩
  · rw [hregion]
    decide
  · rw [hregion]
    decide
  · rw [hregion]
    decide
  · rw [hregion, hcase, isRegion_lower_iff]
    apply hplace.resolve_left
    intro hmulti
    have hlower : ∀ s ∈ ["us", "eu", "asia"], Text.lower s = s := by decide
    rw [hcase, hlower place hmulti] at hother
    exact hother hmulti

end ImageFlow.Location
