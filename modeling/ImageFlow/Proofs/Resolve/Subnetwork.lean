import ImageFlow.Proofs.Resolve.Transcript
import ImageFlow.Proofs.Text.Segments
import ImageFlow.Resolve.Network

/-!
# The network of a subnetwork

When only a subnetwork is given, its network is looked up.  The lookup asks for the last segment of
what is given, in the project and the region of the run, while the subnetwork that is handed on is
the path that is given.  The two are the same subnetwork for a bare name, and for a path exactly
when it lies in that project and that region.
-/

namespace ImageFlow.NetworkChoice

open Text (SlashFree)

/-! ## Paths of subnetworks -/

def fullSubnetPath (project region name : String) : String :=
  "projects/" ++ project ++ "/regions/" ++ region ++ "/subnetworks/" ++ name

/-- The path, which may have a host before it, is the path of this subnetwork. -/
def Names (path project region name : String) : Prop :=
  resourcePath path = fullSubnetPath project region name

instance (path project region name : String) : Decidable (Names path project region name) :=
  inferInstanceAs (Decidable (_ = _))

theorem fullSubnetPath_eq_intercalate (project region name : String) :
    fullSubnetPath project region name =
      "/".intercalate ["projects", project, "regions", region, "subnetworks", name] := by
  apply String.toList_injective
  unfold fullSubnetPath
  simp

/-- Paths of subnetworks are the same only for the same subnetwork. -/
theorem fullSubnetPath_inj {project region name project' region' name' : String}
    (hproject : SlashFree project) (hregion : SlashFree region) (hname : SlashFree name) :
    fullSubnetPath project' region' name' = fullSubnetPath project region name ↔
      project' = project ∧ region' = region ∧ name' = name := by
  constructor
  · intro h
    simp only [fullSubnetPath_eq_intercalate] at h
    have hfree : ∀ s ∈ ["projects", project, "regions", region, "subnetworks", name],
        SlashFree s := by
      simp only [List.forall_mem_cons]
      exact ⟨by decide, hproject, by decide, hregion, by decide, hname, by simp⟩
    simpa using Text.eq_of_intercalate_eq (by simp) (by simp) hfree h
  · rintro ⟨rfl, rfl, rfl⟩
    rfl

theorem fromFirst_of_prefix {needle cs : List Char} (h : needle <+: cs) :
    Text.fromFirst needle cs = some cs := by
  cases cs with
  | nil => simp [Text.fromFirst, List.prefix_nil.mp h]
  | cons c cs => simp [Text.fromFirst, List.isPrefixOf_iff_prefix.mpr h]

theorem suffix_of_fromFirst {needle cs rest : List Char}
    (h : Text.fromFirst needle cs = some rest) : rest <:+ cs := by
  induction cs with
  | nil => simp_all [Text.fromFirst]
  | cons c cs ih =>
      by_cases hprefix : needle.isPrefixOf (c :: cs)
      · simp only [Text.fromFirst, hprefix, if_true, Option.some.injEq] at h
        exact h ▸ List.suffix_refl _
      · simp only [Text.fromFirst, hprefix] at h
        exact (ih h).trans (List.suffix_cons c cs)

theorem resourcePath_fullSubnetPath (project region name : String) :
    resourcePath (fullSubnetPath project region name) =
      fullSubnetPath project region name := by
  have hprefix : "projects/".toList <+: (fullSubnetPath project region name).toList := by
    unfold fullSubnetPath
    simp only [String.toList_append, List.append_assoc]
    exact List.prefix_append _ _
  rw [resourcePath, fromFirst_of_prefix hprefix]
  exact String.ofList_toList

/-- A path without its host is the end of the path. -/
theorem resourcePath_suffix (path : String) : (resourcePath path).toList <:+ path.toList := by
  rw [resourcePath]
  cases hcut : Text.fromFirst "projects/".toList path.toList with
  | none => exact List.suffix_refl _
  | some rest => simpa using suffix_of_fromFirst hcut

theorem lastSegment_of_suffix {path name : String} (hname : SlashFree name)
    (h : '/' :: name.toList <:+ path.toList) : lastSegment path = name := by
  obtain ⟨front, hpath⟩ := h
  have hcut : Text.cutLast '/' path.toList = some (front, name.toList) :=
    Text.cutLast_eq_some_iff.mpr ⟨hpath.symm, hname⟩
  simp [lastSegment, Text.afterLast, hcut]

theorem lastSegment_of_slashFree {path : String} (h : SlashFree path) :
    lastSegment path = path := by
  simp [lastSegment, Text.afterLast, Text.cutLast_eq_none_iff.mpr h]

theorem Names.lastSegment_eq {path project region name : String} (hname : SlashFree name)
    (h : Names path project region name) : lastSegment path = name := by
  apply lastSegment_of_suffix hname
  have hend : '/' :: name.toList <:+ (resourcePath path).toList := by
    rw [h]
    unfold fullSubnetPath
    exact ⟨("projects/" ++ project ++ "/regions/" ++ region ++ "/subnetworks").toList, by simp⟩
  exact hend.trans (resourcePath_suffix path)

theorem Names.not_slashFree {path project region name : String}
    (h : Names path project region name) : ¬SlashFree path := by
  intro hfree
  apply hfree
  apply (resourcePath_suffix path).subset
  rw [h]
  unfold fullSubnetPath
  simp

/-- The path that is handed on for a bare name. -/
theorem subnetPath_of_slashFree {project region subnet : String} (h : SlashFree subnet) :
    subnetPath project region subnet = fullSubnetPath project region subnet := by
  have hslash : '/' ∉ subnet.toList := h
  unfold fullSubnetPath
  simp [subnetPath, expand, hslash]

/-- A path is handed on as it is. -/
theorem subnetPath_of_not_slashFree {project region subnet : String} (h : ¬SlashFree subnet) :
    subnetPath project region subnet = subnet := by
  have hslash : '/' ∈ subnet.toList := Decidable.not_not.mp h
  simp [subnetPath, expand, hslash]

/-- The path that is handed on names what a lookup by its last segment asks for exactly when a bare
name is given, or a path of the project and the region of the lookup. -/
theorem names_subnetPath_iff {project region subnet : String} :
    Names (subnetPath project region subnet) project region (lastSegment subnet) ↔
      SlashFree subnet ∨ Names subnet project region (lastSegment subnet) := by
  by_cases hsubnet : SlashFree subnet
  · rw [subnetPath_of_slashFree hsubnet, lastSegment_of_slashFree hsubnet]
    exact iff_of_true (resourcePath_fullSubnetPath project region subnet) (.inl hsubnet)
  · rw [subnetPath_of_not_slashFree hsubnet]
    exact (or_iff_right hsubnet).symm

/-! ## What is looked up -/

/-- The network that is chosen, and the calls that are made for it. -/
inductive Chosen (network subnet region project : String) : String → List CloudReply → Prop where
  /-- The network that is given. -/
  | given (hnetwork : network ≠ "") : Chosen network subnet region project network []
  /-- The default network, where nothing is given. -/
  | default (hnetwork : network = "") (hsubnet : subnet = "") :
    Chosen network subnet region project defaultNetwork []
  /-- The network of the subnetwork that is looked up. -/
  | ofSubnet (hnetwork : network = "") (hsubnet : subnet ≠ "") (found : Subnetwork) :
    Chosen network subnet region project (resourcePath found.network)
      [⟨.subnetwork project region (lastSegment subnet), .ok found⟩]

variable {ω : Type} {cloud : Cloud ω} {network subnet region project : String} {world after : ω}
  {before replies : List CloudReply}

/-- A subnetwork alone is looked up. -/
theorem choose_of_subnet (cloud : Cloud ω) {subnet : String} (hsubnet : subnet ≠ "")
    (region project : String) :
    choose cloud "" subnet region project =
      (do
        let name := lastSegment subnet
        let found : Subnetwork ← Session.ask cloud (.subnetwork project region name) .client
        Session.tell
          (.debug "network taken from subnet" [("subnet", name), ("network", found.network)])
        return resourcePath found.network) := by
  simp [choose, hsubnet]

/-- A network that is given is chosen. -/
theorem choose_of_network (cloud : Cloud ω) {network : String} (hnetwork : network ≠ "")
    (subnet region project : String) :
    choose cloud network subnet region project = pure network := by
  simp [choose, hnetwork]

theorem choose_eq_ok {chosen : String}
    (h : (choose cloud.transcribed network subnet region project).outcome (world, before) =
      (.ok chosen, after, replies)) :
    ∃ made, replies = before ++ made ∧ Chosen network subnet region project chosen made := by
  by_cases hnetwork : network = ""
  · subst hnetwork
    by_cases hsubnet : subnet = ""
    · subst hsubnet
      cases h
      exact ⟨[], by simp, .default rfl rfl⟩
    · rw [choose_of_subnet cloud.transcribed hsubnet] at h
      obtain ⟨found, ⟨_, _⟩, hfound, hrest⟩ := Session.outcome_bind_eq_ok_iff.mp h
      obtain ⟨-, rfl⟩ := Session.outcome_ask_eq_ok_iff.mp hfound
      obtain ⟨_, _, htell, hpure⟩ := Session.outcome_bind_eq_ok_iff.mp hrest
      cases htell
      cases hpure
      exact ⟨_, rfl, .ofSubnet rfl hsubnet found⟩
  · rw [choose_of_network cloud.transcribed hnetwork] at h
    cases h
    exact ⟨[], by simp, .given hnetwork⟩

/-- What is handed on are the paths of the network that is chosen and of the subnetwork that is
given, if one is. -/
theorem resolve_eq_ok {found : String × String}
    (h : (resolve cloud.transcribed network subnet region project).outcome (world, before) =
      (.ok found, after, replies)) :
    ∃ chosen made, replies = before ++ made ∧ Chosen network subnet region project chosen made ∧
      found = (networkPath project chosen,
        if subnet.isEmpty then "" else subnetPath project region subnet) := by
  simp only [resolve, Session.outcome_bind_eq_ok_iff] at h
  obtain ⟨chosen, ⟨between, all⟩, hchoose, hpure⟩ := h
  cases hpure
  obtain ⟨made, hmade, hchosen⟩ := choose_eq_ok hchoose
  exact ⟨chosen, made, hmade, hchosen, rfl⟩

/-- For a subnetwork alone, one subnetwork is looked up: the one that has the last segment of what
is given as its name, in the project and the region of the run.  The path that is handed on names
it exactly when a bare name is given, or a path in that project and that region. -/
theorem looked_up_subnetwork_iff (hsubnet : subnet ≠ "") {path : String}
    (h : (resolve cloud.transcribed "" subnet region project).outcome (world, []) =
      (.ok (network, path), after, replies)) :
    (∃ found : Subnetwork,
      replies = [⟨.subnetwork project region (lastSegment subnet), .ok found⟩] ∧
        network = networkPath project (resourcePath found.network)) ∧
    (Names path project region (lastSegment subnet) ↔
      SlashFree subnet ∨ Names subnet project region (lastSegment subnet)) ∧
    ∀ host place name, SlashFree host → SlashFree place → SlashFree name →
      Names subnet host place name →
        Names path host place name ∧ lastSegment subnet = name ∧
          (Names path project region (lastSegment subnet) ↔ project = host ∧ region = place) := by
  obtain ⟨chosen, made, rfl, hchosen, hfound⟩ := resolve_eq_ok h
  simp only [String.isEmpty_iff, hsubnet, if_false, Prod.mk.injEq] at hfound
  obtain ⟨rfl, rfl⟩ := hfound
  refine ⟨?_, names_subnetPath_iff, ?_⟩
  · cases hchosen with
    | given hnetwork => exact absurd rfl hnetwork
    | default _ hempty => exact absurd hempty hsubnet
    | ofSubnet _ _ found => exact ⟨found, rfl, rfl⟩
  · intro host place name hhost hplace hname hnames
    have hlast : lastSegment subnet = name := hnames.lastSegment_eq hname
    rw [subnetPath_of_not_slashFree hnames.not_slashFree, hlast]
    refine ⟨hnames, rfl, ?_⟩
    have hpath : resourcePath subnet = fullSubnetPath host place name := hnames
    rw [Names, hpath, eq_comm, fullSubnetPath_inj hhost hplace hname]
    simp

/-- A cloud that has a subnetwork of every name in every project and region, all in one network. -/
def oneNetworkCloud : Cloud Unit := fun call _ =>
  match call with
  | .subnetwork _ _ name =>
    (.ok ⟨name, "https://www.googleapis.com/compute/v1/projects/p/global/networks/other"⟩, ())
  | _ => (.error .network, ())

/-- The path of a subnetwork in another project and region than those of the run. -/
def hostPath : String := "projects/host/regions/europe-west1/subnetworks/sub"

/-- For a path in another project and region, the subnetwork of its name in the project and the
region of the run is looked up, which is not the one that is handed on. -/
theorem looked_up_subnetwork_of_hostPath :
    (resolve oneNetworkCloud.transcribed "" hostPath "us-central1" "p").outcome ((), []) =
        (.ok ("projects/p/global/networks/other", hostPath), (),
          [⟨.subnetwork "p" "us-central1" "sub",
            .ok ⟨"sub",
              "https://www.googleapis.com/compute/v1/projects/p/global/networks/other"⟩⟩]) ∧
      ¬Names hostPath "p" "us-central1" "sub" := by
  have h : (resolve oneNetworkCloud.transcribed "" hostPath "us-central1" "p").outcome ((), []) =
      (.ok ("projects/p/global/networks/other", hostPath), (),
        [⟨.subnetwork "p" "us-central1" "sub",
          .ok ⟨"sub",
            "https://www.googleapis.com/compute/v1/projects/p/global/networks/other"⟩⟩]) := rfl
  have hnames : Names hostPath "host" "europe-west1" "sub" := by decide
  obtain ⟨-, -, hpath⟩ := looked_up_subnetwork_iff (by decide) h
  obtain ⟨-, hlast, hmatch⟩ :=
    hpath "host" "europe-west1" "sub" (by decide) (by decide) (by decide) hnames
  rw [hlast] at hmatch
  exact ⟨h, fun hsame => absurd (hmatch.mp hsame).1 (by decide)⟩

/-- The subnetwork that is looked up is not always the one that is handed on. -/
theorem not_always_looked_up :
    ¬ ∀ (cloud : Cloud Unit) (project region subnet network path : String)
        (host place name : String) (found : Subnetwork),
      subnet ≠ "" →
        (resolve cloud.transcribed "" subnet region project).outcome ((), []) =
          (.ok (network, path), (), [⟨.subnetwork host place name, .ok found⟩]) →
        Names path host place name := by
  intro h
  have hsame := h oneNetworkCloud "p" "us-central1" hostPath _ _ _ _ _ _ (by decide) rfl
  exact absurd hsame (by decide)

end ImageFlow.NetworkChoice
