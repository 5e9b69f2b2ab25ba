import ImageFlow.Proofs.Resolve.Regions

/-!
# Laws of locations

A location has a widest location around it and a region that stands for it.  Both are found in a
table, by the part before the first dash and by the whole name, and the tables agree: the region
that stands for a location lies within its widest location.  Either search finds again what it has
found, and does not see the case of a name.  A zone has a region exactly when it is put together
from one.
-/

namespace ImageFlow.Location

/-- The laws that the widest location and the representative region of a location obey. -/
structure Laws (location : String) : Prop where
  largest_representative :
    largestStorageLocation (representativeRegion location) = largestStorageLocation location
  largest_idem :
    largestStorageLocation (largestStorageLocation location) = largestStorageLocation location
  representative_idem :
    representativeRegion (representativeRegion location) = representativeRegion location
  largest_lower : largestStorageLocation (Text.lower location) = largestStorageLocation location
  representative_lower :
    representativeRegion (Text.lower location) = representativeRegion location

/-- A widest location is a multi-region, or else the location itself. -/
theorem largestStorageLocation_eq_or (location : String) :
    largestStorageLocation location = "us" ∨ largestStorageLocation location = "eu" ∨
      largestStorageLocation location = "asia" ∨
      largestStorageLocation location = Text.lower location := by
  simp only [largestStorageLocation]
  split
  case h_1 => exact .inl rfl
  case h_2 => exact .inr (.inl rfl)
  case h_3 => exact .inr (.inl rfl)
  case h_4 => exact .inr (.inr (.inl rfl))
  case h_5 => exact .inr (.inr (.inr rfl))

theorem largestStorageLocation_largestStorageLocation (location : String) :
    largestStorageLocation (largestStorageLocation location) =
      largestStorageLocation location := by
  rcases largestStorageLocation_eq_or location with h | h | h | h
  · rw [h]
    decide
  · rw [h]
    decide
  · rw [h]
    decide
  · calc
      largestStorageLocation (largestStorageLocation location) =
          largestStorageLocation (Text.lower location) := by rw [h]
      _ = largestStorageLocation location := largestStorageLocation_lower location

theorem representativeRegion_representativeRegion (location : String) :
    representativeRegion (representativeRegion location) = representativeRegion location := by
  rcases representativeRegion_eq_or location with ⟨-, h⟩ | ⟨-, h⟩ | ⟨-, h⟩ | ⟨-, h⟩
  · rw [h]
    decide
  · rw [h]
    decide
  · rw [h]
    decide
  · calc
      representativeRegion (representativeRegion location) =
          representativeRegion (Text.lower location) := by rw [h]
      _ = representativeRegion location := representativeRegion_lower location

theorem laws (location : String) : Laws location where
  largest_representative := largestStorageLocation_representativeRegion location
  largest_idem := largestStorageLocation_largestStorageLocation location
  representative_idem := representativeRegion_representativeRegion location
  largest_lower := largestStorageLocation_lower location
  representative_lower := representativeRegion_lower location

/-- The zone is the region, a dash and a small letter, and the region has a dash in it too. -/
structure IsZoneOf (region zone : String) : Prop where
  dash_mem : '-' ∈ region.toList
  name_eq : ∃ letter : Char, 'a' ≤ letter ∧ letter ≤ 'z' ∧
    zone = region ++ "-" ++ String.singleton letter

theorem regionOfZone_eq_ok_iff_isZoneOf {zone region : String} :
    regionOfZone zone = .ok region ↔ IsZoneOf region zone := by
  have hname (letter : Char) : zone = region ++ "-" ++ String.singleton letter ↔
      zone.toList = region.toList ++ ['-', letter] := by
    rw [← String.toList_inj, String.toList_append, String.toList_append, List.append_assoc,
      String.toList_singleton]
    rfl
  rw [regionOfZone_eq_ok_iff]
  constructor
  · rintro ⟨hdash, letter, hletter, hzone⟩
    obtain ⟨hlow, hhigh⟩ : 'a' ≤ letter ∧ letter ≤ 'z' := by simpa [isZoneLetter] using hletter
    exact ⟨hdash, letter, hlow, hhigh, (hname letter).mpr hzone⟩
  · rintro ⟨hdash, letter, hlow, hhigh, hzone⟩
    have hletter : isZoneLetter letter = true := by simp [isZoneLetter, hlow, hhigh]
    exact ⟨hdash, letter, hletter, (hname letter).mp hzone⟩

/-- A zone that lies in no region is given back in the error. -/
theorem regionOfZone_eq_ok_or_invalid (zone : String) :
    (∃ region, regionOfZone zone = .ok region) ∨
      regionOfZone zone = .error (.invalidZone zone) := by
  rw [regionOfZone]
  split
  next region _ _ =>
    split
    · exact .inl ⟨String.ofList region, rfl⟩
    · exact .inr rfl
  next => exact .inr rfl

/-- The widest location and the region of a location agree with each other, and each of them is
settled after one step, for every text and in whatever case it is.  A zone maps to a region exactly
when it is the region, a dash and a letter from a to z, and every other zone is invalid. -/
theorem location_laws :
    (∀ location, Laws location) ∧
      ∀ zone, (∀ region, regionOfZone zone = .ok region ↔ IsZoneOf region zone) ∧
        (regionOfZone zone = .error (.invalidZone zone) ↔ ¬∃ region, IsZoneOf region zone) := by
  refine ⟨laws, fun zone => ⟨fun region => regionOfZone_eq_ok_iff_isZoneOf, ?_⟩⟩
  simp only [← regionOfZone_eq_ok_iff_isZoneOf]
  constructor
  · rintro hinvalid ⟨region, hregion⟩
    rw [hinvalid] at hregion
    cases hregion
  · exact (regionOfZone_eq_ok_or_invalid zone).resolve_left

end ImageFlow.Location
