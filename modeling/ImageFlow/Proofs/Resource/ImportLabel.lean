import ImageFlow.Proofs.Data.OrderedMap
import ImageFlow.Resource.DiskImage

/-!
# The label of imported images

The request for the image of a data disk is refused for its name, or else for its key, and for
nothing else.  A request that is made has the labels of the user and the import label under them, so
a user who gives that label decides its value.
-/

namespace ImageFlow

theorem ResourceName.checkImage_of_isImageName
    {name : String} (h : isImageName name.toList = true) :
    checkImage name = .ok () :=
  if_pos h

theorem ResourceName.checkImage_of_not_isImageName
    {name : String} (h : isImageName name.toList ≠ true) :
    checkImage name = .error ⟨"Image name", name, imagesReference⟩ :=
  if_neg h

namespace DataDiskImage

/-- Why no request is made for a disk: the name of the image is not one, which is checked first, or
the key cannot be named. -/
inductive Refused (project imageName : String) (key : KeyRequest) : ImageError → Prop where
  | invalidName (invalid : ResourceName.isImageName imageName.toList ≠ true) :
      Refused project imageName key
        (.validation ⟨"Image name", imageName, ResourceName.imagesReference⟩)
  | keyless {problem : KeyProblem}
      (valid : ResourceName.isImageName imageName.toList = true)
      (unnamed : key.name project = .error problem) :
      Refused project imageName key (.key (.invalidKey problem))

/-- The labels of a request for which the user gives these. -/
def requestLabels (userLabels : OrderedMap String) : OrderedMap String :=
  userLabels.overlay ((∅ : OrderedMap String).insert importLabel "true")

section Labels

variable (userLabels : OrderedMap String)

theorem get?_requestLabels (label : String) :
    (requestLabels userLabels).get? label =
      (userLabels.get? label).or (if label = importLabel then some "true" else none) := by
  rw [requestLabels, OrderedMap.get?_overlay, OrderedMap.get?_insert, OrderedMap.get?_empty]

theorem get?_requestLabels_of_ne {label : String} (h : label ≠ importLabel) :
    (requestLabels userLabels).get? label = userLabels.get? label := by
  rw [get?_requestLabels, if_neg h, Option.or_none]

theorem get?_requestLabels_importLabel :
    (requestLabels userLabels).get? importLabel =
      some ((userLabels.get? importLabel).getD "true") := by
  rw [get?_requestLabels, if_pos rfl]
  cases userLabels.get? importLabel with
  | none => rfl
  | some value => rfl

theorem importLabel_kept_iff :
    (requestLabels userLabels).get? importLabel = some "true" ↔
      ∀ value, userLabels.get? importLabel = some value → value = "true" := by
  rw [get?_requestLabels_importLabel]
  cases userLabels.get? importLabel with
  | none => simp
  | some value => simp

end Labels

section Make

variable (project imageName diskUri : String) (userLabels : OrderedMap String)
  (storageLocation : String) (key : KeyRequest)

theorem make_of_refused {source : ImageError} (h : Refused project imageName key source) :
    make project imageName diskUri userLabels storageLocation key = .error source := by
  cases h with
  | invalidName invalid =>
      rw [make, ResourceName.checkImage_of_not_isImageName invalid]
      rfl
  | keyless valid unnamed =>
      rw [make, ResourceName.checkImage_of_isImageName valid, unnamed]
      rfl

/-- A request that is not refused is made, with the labels of the user over the import label. -/
theorem exists_make_eq_ok
    (hvalid : ResourceName.isImageName imageName.toList = true) {name? : Option String}
    (hnamed : key.name project = .ok name?) :
    ∃ image, make project imageName diskUri userLabels storageLocation key = .ok image ∧
      image.request.labels = requestLabels userLabels := by
  rw [make, ResourceName.checkImage_of_isImageName hvalid, hnamed]
  exact ⟨_, rfl, rfl⟩

theorem refused_or_made :
    (∃ source, Refused project imageName key source) ∨
      ∃ image, make project imageName diskUri userLabels storageLocation key = .ok image ∧
        image.request.labels = requestLabels userLabels := by
  by_cases hvalid : ResourceName.isImageName imageName.toList = true
  · cases hname : key.name project with
    | error problem => exact .inl ⟨_, .keyless hvalid hname⟩
    | ok name? =>
        exact .inr (exists_make_eq_ok project imageName diskUri userLabels storageLocation key
          hvalid hname)
  · exact .inl ⟨_, .invalidName hvalid⟩

/-- A request is refused for the name of the image, and if that is valid for a key that cannot be
named in the project, and for nothing else.  A request that is made has the labels of the user, each
with its value, and the import label, and no others.  The import label is `true` exactly when the
user does not give it another value. -/
theorem request_refused_or_labelled :
    (∀ source, make project imageName diskUri userLabels storageLocation key = .error source ↔
      Refused project imageName key source) ∧
    ∀ image, make project imageName diskUri userLabels storageLocation key = .ok image →
      (∀ label, label ≠ importLabel →
        image.request.labels.get? label = userLabels.get? label) ∧
      image.request.labels.get? importLabel =
        some ((userLabels.get? importLabel).getD "true") ∧
      (image.request.labels.get? importLabel = some "true" ↔
        ∀ value, userLabels.get? importLabel = some value → value = "true") := by
  have hcases := refused_or_made project imageName diskUri userLabels storageLocation key
  constructor
  · intro source
    refine ⟨?_, make_of_refused project imageName diskUri userLabels storageLocation key⟩
    intro hmade
    rcases hcases with ⟨other, hrefused⟩ | ⟨image, hok, -⟩
    · have hother :=
        make_of_refused project imageName diskUri userLabels storageLocation key hrefused
      obtain rfl : source = other := Except.error.inj (hmade.symm.trans hother)
      exact hrefused
    · cases hmade.symm.trans hok
  · intro image hmade
    rcases hcases with ⟨source, hrefused⟩ | ⟨other, hok, hlabels⟩
    · have herror :=
        make_of_refused project imageName diskUri userLabels storageLocation key hrefused
      cases hmade.symm.trans herror
    · obtain rfl : image = other := Except.ok.inj (hmade.symm.trans hok)
      rw [hlabels]
      refine ⟨?_, get?_requestLabels_importLabel userLabels, importLabel_kept_iff userLabels⟩
      intro label hlabel
      exact get?_requestLabels_of_ne userLabels hlabel

end Make

/-- Labels of a user who gives the import label another value. -/
def relabelled : OrderedMap String :=
  .ofList [("gce-image-import", "false"), ("team", "infra")]

/-- The request of such a user is made and does not keep the import label. -/
theorem request_relabelled :
    ∃ image, make "p" "data-image" "disk" relabelled "" {} = .ok image ∧
      image.request.labels.get? "team" = some "infra" ∧
      image.request.labels.get? importLabel ≠ some "true" := by
  obtain ⟨image, hmade⟩ : ∃ image, make "p" "data-image" "disk" relabelled "" {} = .ok image :=
    ⟨_, rfl⟩
  obtain ⟨hother, -, hkept⟩ :=
    (request_refused_or_labelled "p" "data-image" "disk" relabelled "" {}).2 image hmade
  refine ⟨image, hmade, ?_, ?_⟩
  · rw [hother "team" (by decide)]
    decide
  · rw [Ne, hkept]
    intro htrue
    exact absurd (htrue "false" (by decide)) (by decide)

/-- The import label does not survive all labels of users. -/
theorem not_all_requests_keep_importLabel :
    ¬ ∀ (project imageName diskUri : String) (userLabels : OrderedMap String)
      (storageLocation : String) (key : KeyRequest) (image : DataDiskImage),
      make project imageName diskUri userLabels storageLocation key = .ok image →
        image.request.labels.get? importLabel = some "true" := by
  intro h
  have hkept := h "p" "data-image" "disk" relabelled "" {} _ rfl
  exact absurd hkept (by decide)

end DataDiskImage

end ImageFlow
