import ImageFlow.Proofs.Resolve.Filling

/-!
# What a resolution guarantees

The parameters of a resolution that ends well: what was given is kept, and what was blank follows
from what the cloud answered during the resolution.  Every call has its turn and is made in it, at
most once, so an answer in the transcript is the only one to its call; a bucket is created exactly
when no scratch path is given.
-/

namespace ImageFlow

open Location NetworkChoice
open Text (SlashFree)

/-! ## The turns of calls -/

/-- When a call is made in a resolution, relative to the others.  The calls of a turn exclude each
other; those of the last turn are not made. -/
def CloudCall.turn : CloudCall → Nat
  | metadataProject => 0
  | bucketLocation _ | metadataZone => 1
  | createBucket .. => 2
  | zones _ => 3
  | subnetwork .. => 4
  | machineTypes .. => 5
  | image .. | snapshot .. | createImage .. => 6

/-- The calls are made in turn, from the turn `first` on and before the turn `last`. -/
structure InTurn (first last : Nat) (replies : List CloudReply) : Prop where
  pairwise : replies.Pairwise fun a b => a.call.turn < b.call.turn
  bounds : ∀ reply ∈ replies, first ≤ reply.call.turn ∧ reply.call.turn < last

theorem InTurn.nil (first last : Nat) : InTurn first last [] :=
  ⟨List.Pairwise.nil, by simp⟩

theorem InTurn.single {first last : Nat} {reply : CloudReply}
    (h : first ≤ reply.call.turn ∧ reply.call.turn < last) : InTurn first last [reply] :=
  ⟨List.pairwise_singleton _ _, by simpa using h⟩

theorem InTurn.append {first middle last : Nat} {earlier later : List CloudReply}
    (hearlier : InTurn first middle earlier) (hlater : InTurn middle last later)
    (hle : first ≤ middle ∧ middle ≤ last) : InTurn first last (earlier ++ later) where
  pairwise := by
    refine List.pairwise_append.mpr ⟨hearlier.pairwise, hlater.pairwise, ?_⟩
    intro a ha b hb
    exact Nat.lt_of_lt_of_le (hearlier.bounds a ha).2 (hlater.bounds b hb).1
  bounds := by
    intro reply hreply
    rcases List.mem_append.mp hreply with hmem | hmem
    · have := hearlier.bounds reply hmem
      omega
    · have := hlater.bounds reply hmem
      omega

/-- The project, the name and the region of the bucket that a call creates. -/
def CloudReply.createdBucket? (reply : CloudReply) : Option (String × String × String) :=
  match reply.call with
  | .createBucket project bucket region => some (project, bucket, region)
  | _ => none

theorem createdBuckets_eq_nil {first last : Nat} {replies : List CloudReply}
    (h : InTurn first last replies) (hturn : last ≤ 2 ∨ 3 ≤ first) :
    replies.filterMap CloudReply.createdBucket? = [] := by
  rw [List.filterMap_eq_nil_iff]
  intro reply hreply
  have hbounds := h.bounds reply hreply
  cases hcall : reply.call with
  | createBucket project bucket region =>
      simp only [hcall, CloudCall.turn] at hbounds
      omega
  | _ => simp [CloudReply.createdBucket?, hcall]

namespace Resolution

variable {project zone scratchPath given found bucketRegion network subnet region chosen : String}
  {series : List String} {made : List CloudReply}

theorem ProjectFound.inTurn (h : ProjectFound given found made) : InTurn 0 1 made := by
  cases h with
  | given => exact .nil 0 1
  | answered => exact .single (by simp [CloudCall.turn])

theorem BucketRegionFound.inTurn (h : BucketRegionFound zone region made) : InTurn 1 2 made := by
  cases h with
  | ofZone => exact .nil 1 2
  | answered => exact .single (by simp [CloudCall.turn])
  | blank => exact .single (by simp [CloudCall.turn])
  | unanswered => exact .single (by simp [CloudCall.turn])

theorem ScratchFound.inTurn
    (h : ScratchFound project zone given scratchPath bucketRegion made) : InTurn 1 3 made := by
  cases h with
  | given => exact .single (by simp [CloudCall.turn])
  | created _ hregion =>
      exact hregion.inTurn.append (.single (by simp [CloudCall.turn]))
        (by decide)

theorem ZoneFound.inTurn (h : ZoneFound project bucketRegion given zone made) :
    InTurn 3 4 made := by
  cases h with
  | given => exact .nil 3 4
  | listed => exact .single (by simp [CloudCall.turn])

theorem SeriesFound.inTurn {given : List String} (h : SeriesFound project zone given series made) :
    InTurn 5 6 made := by
  cases h with
  | given => exact .nil 5 6
  | detected => exact .single (by simp [CloudCall.turn])

/-- Of the calls for a scratch path, only those for a new one create a bucket. -/
theorem ScratchFound.createdBuckets
    (h : ScratchFound project zone given scratchPath bucketRegion made) :
    made.filterMap CloudReply.createdBucket? =
      if given = "" then [(project, scratchBucketName project bucketRegion, bucketRegion)]
      else [] := by
  cases h with
  | given hgiven => simp [hgiven, CloudReply.createdBucket?]
  | created hempty hregion =>
      rw [List.filterMap_append, createdBuckets_eq_nil hregion.inTurn (.inl (by decide))]
      simp [hempty, CloudReply.createdBucket?]

end Resolution

theorem NetworkChoice.Chosen.inTurn {network subnet region project chosen : String}
    {made : List CloudReply} (h : Chosen network subnet region project chosen made) :
    InTurn 4 5 made := by
  cases h with
  | given => exact .nil 4 5
  | default => exact .nil 4 5
  | ofSubnet => exact .single (by simp [CloudCall.turn])

/-! ## The guarantee -/

theorem networkPath_of_not_slashFree {project network : String} (h : ¬SlashFree network) :
    networkPath project network = network := by
  have hslash : '/' ∈ network.toList := Decidable.not_not.mp h
  simp [networkPath, expand, hslash]

theorem not_slashFree_networkPath (project network : String) :
    ¬SlashFree (networkPath project network) := by
  by_cases hslash : '/' ∈ network.toList
  · simp [SlashFree, networkPath, expand, hslash]
  · simp [SlashFree, networkPath, expand, hslash]

theorem not_slashFree_subnetPath (project region subnet : String) :
    ¬SlashFree (subnetPath project region subnet) := by
  by_cases hslash : '/' ∈ subnet.toList
  · simp [SlashFree, subnetPath, expand, hslash]
  · simp [SlashFree, subnetPath, expand, hslash]

/-- What holds of the parameters `p` that a resolution makes of `q` with a scratch bucket in
`bucketRegion`, where `replies` are its calls and the answers to them. -/
structure Guarantee (q p : Parameters) (bucketRegion : String) (replies : List CloudReply) :
    Prop where
  /-- Every call is made in its turn, and at most once. -/
  inTurn : replies.Pairwise fun a b => a.call.turn < b.call.turn
  project_kept : q.project ≠ "" → p.project = q.project
  project_answered : q.project = "" →
    p.project ≠ "" ∧ ⟨.metadataProject, .ok p.project⟩ ∈ replies
  scratchPath_kept : q.scratchPath ≠ "" →
    p.scratchPath = q.scratchPath ∧ replies.filterMap CloudReply.createdBucket? = []
  /-- The region of a bucket that is given is the one that the cloud answers, in small letters. -/
  bucketRegion_answered : q.scratchPath ≠ "" →
    ∃ bucket object location, splitStoragePath q.scratchPath = .ok (bucket, object) ∧
      ⟨.bucketLocation bucket, .ok location⟩ ∈ replies ∧ bucketRegion = Text.lower location
  /-- A new bucket is created once, in the region of the zone that is given, or else of the zone of
  the metadata server, or else in the default region. -/
  scratchPath_created : q.scratchPath = "" →
    (∃ made, made ⊆ replies ∧ Resolution.BucketRegionFound q.zone bucketRegion made) ∧
      p.scratchPath = "gs://" ++ scratchBucketName p.project bucketRegion ++ "/" ∧
      replies.filterMap CloudReply.createdBucket? =
        [(p.project, scratchBucketName p.project bucketRegion, bucketRegion)]
  storageLocation_none : q.storageLocation = none → p.storageLocation = none
  storageLocation_kept : ∀ location, location ≠ "" → q.storageLocation = some location →
    p.storageLocation = some location
  storageLocation_derived : q.storageLocation = some "" →
    p.storageLocation = some (largestStorageLocation bucketRegion)
  zone_kept : q.zone ≠ "" → p.zone = q.zone
  regionOfZone_zone : regionOfZone p.zone = .ok p.region
  network_ne_empty : p.network ≠ ""
  network_path : ¬SlashFree p.network
  network_kept : ¬SlashFree q.network → p.network = q.network
  subnet_eq_empty_iff : p.subnet = "" ↔ q.subnet = ""
  subnet_path : q.subnet ≠ "" → ¬SlashFree p.subnet
  subnet_kept : ¬SlashFree q.subnet → p.subnet = q.subnet
  series_kept : q.workerMachineSeries ≠ [] → p.workerMachineSeries = q.workerMachineSeries
  /-- Nothing else is touched. -/
  others_kept : p =
    { q with
      project := p.project
      zone := p.zone
      region := p.region
      scratchPath := p.scratchPath
      storageLocation := p.storageLocation
      network := p.network
      subnet := p.subnet
      workerMachineSeries := p.workerMachineSeries }

theorem ne_empty_of_not_slashFree {s : String} (h : ¬SlashFree s) : s ≠ "" := by
  rintro rfl
  exact h (by decide)

/-- Parameters that are filled in have what is guaranteed. -/
theorem Parameters.FilledIn.exists_guarantee {q p : Parameters} {replies : List CloudReply}
    (h : q.FilledIn p replies) : ∃ bucketRegion, Guarantee q p bucketRegion replies := by
  obtain @⟨project, scratchPath, bucketRegion, zone, region, chosen, series, byProject, byScratch,
    byZone, byNetwork, bySeries, hproject, hscratch, hzone, hregion, hnetwork, hseries⟩ := h
  have hlater : InTurn 3 6 (byZone ++ (byNetwork ++ bySeries)) :=
    hzone.inTurn.append (hnetwork.inTurn.append hseries.inTurn (by decide)) (by decide)
  have hcreated :
      (byProject ++ (byScratch ++ (byZone ++ (byNetwork ++ bySeries)))).filterMap
          CloudReply.createdBucket? =
        if q.scratchPath = "" then
          [(project, scratchBucketName project bucketRegion, bucketRegion)]
        else [] := by
    rw [List.filterMap_append, List.filterMap_append, hscratch.createdBuckets,
      createdBuckets_eq_nil hproject.inTurn (.inl (by decide)),
      createdBuckets_eq_nil hlater (.inr (by decide))]
    simp
  refine ⟨bucketRegion, ?_⟩
  constructor
  case inTurn =>
    exact (hproject.inTurn.append (hscratch.inTurn.append hlater (by decide)) (by decide)).pairwise
  case project_kept =>
    intro hgiven
    cases hproject with
    | given => rfl
    | answered hempty => exact absurd hempty hgiven
  case project_answered =>
    intro hempty
    cases hproject with
    | given hgiven => exact absurd hempty hgiven
    | answered _ hne => exact ⟨hne, by simp⟩
  case scratchPath_kept =>
    intro hgiven
    refine ⟨?_, by simp [hcreated, hgiven]⟩
    cases hscratch with
    | given => rfl
    | created hempty => exact absurd hempty hgiven
  case bucketRegion_answered =>
    intro hgiven
    cases hscratch with
    | given _ hsplit => exact ⟨_, _, _, hsplit, by simp, rfl⟩
    | created hempty => exact absurd hempty hgiven
  case scratchPath_created =>
    intro hempty
    refine ⟨?_, ?_, by simp [hcreated, hempty]⟩
    · cases hscratch with
      | given hgiven => exact absurd hempty hgiven
      | created _ hfound =>
          refine ⟨_, ?_, hfound⟩
          intro reply hreply
          simp [hreply]
    · cases hscratch with
      | given hgiven => exact absurd hempty hgiven
      | created => rfl
  case storageLocation_none =>
    intro hnone
    simp [hnone, Resolution.locationFor]
  case storageLocation_kept =>
    intro location hne hsome
    simp [hsome, Resolution.locationFor, hne]
  case storageLocation_derived =>
    intro hsome
    simp [hsome, Resolution.locationFor]
  case zone_kept =>
    intro hgiven
    cases hzone with
    | given => rfl
    | listed hempty => exact absurd hempty hgiven
  case regionOfZone_zone => exact hregion
  case network_ne_empty => exact ne_empty_of_not_slashFree (not_slashFree_networkPath _ _)
  case network_path => exact not_slashFree_networkPath _ _
  case network_kept =>
    intro hslash
    have hne := ne_empty_of_not_slashFree hslash
    cases hnetwork with
    | given => exact networkPath_of_not_slashFree hslash
    | default hempty => exact absurd hempty hne
    | ofSubnet hempty => exact absurd hempty hne
  case subnet_eq_empty_iff =>
    by_cases hempty : q.subnet = ""
    · simp [hempty]
    · simp [hempty, ne_empty_of_not_slashFree (not_slashFree_subnetPath project region q.subnet)]
  case subnet_path =>
    intro hgiven
    simpa [hgiven] using not_slashFree_subnetPath project region q.subnet
  case subnet_kept =>
    intro hslash
    simp [ne_empty_of_not_slashFree hslash, subnetPath_of_not_slashFree hslash]
  case series_kept =>
    intro hgiven
    cases hseries with
    | given => rfl
    | detected hempty => exact absurd hempty hgiven
  case others_kept => rfl

/-- A resolution that ends well guarantees what was given and what follows from the answers of the
cloud. -/
theorem resolve_guarantees {ω : Type} (cloud : Cloud ω) (q : Parameters) (world : ω)
    (h : (q.resolve cloud.transcribed (.ofCloud cloud.transcribed) (world, [])).result = .ok ()) :
    ∃ bucketRegion,
      Guarantee q
        (q.resolve cloud.transcribed (.ofCloud cloud.transcribed) (world, [])).params
        bucketRegion
        (q.resolve cloud.transcribed (.ofCloud cloud.transcribed) (world, [])).world.2 :=
  (Parameters.filledIn_of_resolve h).exists_guarantee

/-- A cloud with one zone that is in use, one machine series, and no zone of its own. -/
def oneZoneCloud : Cloud Unit := fun call _ =>
  match call with
  | .metadataProject => (.ok "example.com:meta", ())
  | .createBucket .. => (.ok (), ())
  | .zones _ => (.ok [⟨"us-central1-a", "DOWN"⟩, ⟨"us-central1-b", "UP"⟩], ())
  | .machineTypes .. =>
    (.ok ["n1-standard-2", "n1-standard-4", "n1-standard-8", "n1-highcpu-4"], ())
  | _ => (.error .network, ())

/-- Parameters that are blank but for the wish for a storage location. -/
def blankParameters : Parameters :=
  { storageLocation := some "" }

/-- Blank parameters are filled in by what `oneZoneCloud` answers. -/
theorem resolve_guarantees_blank :
    (blankParameters.resolve oneZoneCloud.transcribed (.ofCloud oneZoneCloud.transcribed)
        ((), [])).result = .ok () ∧
      ∃ bucketRegion,
        Guarantee blankParameters
          (blankParameters.resolve oneZoneCloud.transcribed (.ofCloud oneZoneCloud.transcribed)
            ((), [])).params
          bucketRegion
          (blankParameters.resolve oneZoneCloud.transcribed (.ofCloud oneZoneCloud.transcribed)
            ((), [])).world.2 := by
  have hok : (blankParameters.resolve oneZoneCloud.transcribed (.ofCloud oneZoneCloud.transcribed)
      ((), [])).result.isOk = true := by decide +kernel
  cases hresult : (blankParameters.resolve oneZoneCloud.transcribed
      (.ofCloud oneZoneCloud.transcribed) ((), [])).result with
  | ok _ => exact ⟨rfl, resolve_guarantees oneZoneCloud blankParameters () hresult⟩
  | error => simp [hresult, Except.isOk, Except.toBool] at hok

end ImageFlow
