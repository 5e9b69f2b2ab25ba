import ImageFlow.Cloud.Compute

/-!
# Listings in pages

A listing asks for one page after another: the first one without a token, and each further one
with the token that the page before it has given.  If it ends well, it is all items of all these
pages, in their order (`listPages_eq_ok_iff`).
-/

namespace ImageFlow

variable {ω α β : Type}

/-- How an exchange ends on a world, and the world that it leaves behind. -/
def Exchange.outcome (exchange : Exchange ω α) (world : ω) : Except ClientError α × ω :=
  exchange.run world

theorem Exchange.outcome_bind (x : Exchange ω α) (f : α → Exchange ω β) (world : ω) :
    (x >>= f).outcome world =
      Exchange.outcome (ExceptT.mk (ExceptT.bindCont f (x.outcome world).1))
        (x.outcome world).2 := rfl

/-- An exchange of two parts ends well exactly when both parts do. -/
theorem Exchange.outcome_bind_eq_ok_iff {x : Exchange ω α} {f : α → Exchange ω β} {world after : ω}
    {value : β} :
    (x >>= f).outcome world = (.ok value, after) ↔
      ∃ a between, x.outcome world = (.ok a, between) ∧
        (f a).outcome between = (.ok value, after) := by
  rw [Exchange.outcome_bind]
  rcases x.outcome world with ⟨failure | a, between⟩
  · have herror : Exchange.outcome (ExceptT.mk (ExceptT.bindCont f (.error failure))) between =
        (.error failure, between) := rfl
    simp [herror]
  · have hok : Exchange.outcome (ExceptT.mk (ExceptT.bindCont f (.ok a))) between =
        (f a).outcome between := rfl
    simp [hok, and_assoc]

namespace ComputeClient

/-- The pages of a listing from a token on, as they are answered one after another: each but the
last has the token of the one after it. -/
inductive Pages (ask : Option String → Exchange ω (Page α)) :
    Option String → ω → List (Page α) → ω → Prop where
  | last {token : Option String} {world after : ω} {page : Page α}
    (hpage : (ask token).outcome world = (.ok page, after)) (hlast : page.next? = none) :
    Pages ask token world [page] after
  | more {token : Option String} {next : String} {world between after : ω} {page : Page α}
    {pages : List (Page α)} (hpage : (ask token).outcome world = (.ok page, between))
    (hnext : page.next? = some next) (hrest : Pages ask (some next) between pages after) :
    Pages ask token world (page :: pages) after

variable {ask : Option String → Exchange ω (Page α)} {token : Option String} {world after : ω}

theorem Pages.ne_nil {pages : List (Page α)} (h : Pages ask token world pages after) :
    pages ≠ [] := by
  cases h with
  | last => exact List.cons_ne_nil _ _
  | more => exact List.cons_ne_nil _ _

/-- A listing ends well exactly when its pages are answered up to the last one, within the budget;
it is then all items of all pages, in order. -/
theorem listPages_eq_ok_iff {budget : Nat} {items : List α} :
    (listPages ask budget token).outcome world = (.ok items, after) ↔
      ∃ pages, Pages ask token world pages after ∧ pages.length ≤ budget ∧
        items = pages.flatMap (·.items) := by
  induction budget generalizing token world items with
  | zero =>
      constructor
      · intro h
        cases h
      · rintro ⟨pages, hpages, hlength, -⟩
        exact absurd (List.length_eq_zero_iff.mp (Nat.le_zero.mp hlength)) hpages.ne_nil
  | succ budget ih =>
      rw [listPages, Exchange.outcome_bind_eq_ok_iff]
      constructor
      · rintro ⟨page, between, hpage, hrest⟩
        cases hnext : page.next? with
        | none =>
            simp only [hnext] at hrest
            cases hrest
            exact ⟨[page], .last hpage hnext, Nat.succ_pos budget, by simp⟩
        | some next =>
            simp only [hnext] at hrest
            obtain ⟨others, between', hothers, hpure⟩ := Exchange.outcome_bind_eq_ok_iff.mp hrest
            cases hpure
            obtain ⟨pages, hpages, hlength, rfl⟩ := ih.mp hothers
            exact ⟨page :: pages, .more hpage hnext hpages, Nat.succ_le_succ hlength, by simp⟩
      · rintro ⟨pages, hpages, hlength, rfl⟩
        cases hpages with
        | @last _ _ _ page hpage hlast =>
            refine ⟨page, after, hpage, ?_⟩
            simp only [hlast, List.flatMap_singleton]
            rfl
        | @more _ next _ between _ page pages hpage hnext hrest =>
            refine ⟨page, between, hpage, ?_⟩
            simp only [hnext]
            apply Exchange.outcome_bind_eq_ok_iff.mpr
            have hothers := ih.mpr ⟨pages, hrest, Nat.le_of_succ_le_succ hlength, rfl⟩
            exact ⟨_, after, hothers, rfl⟩

/-- The page of a project's zones that a token asks for. -/
def zonePage (transport : Transport ω) (client : ComputeClient) (project : String)
    (token : Option String) : Exchange ω (Page Zone) :=
  client.api.get transport ("projects/" ++ project ++ "/zones") (pageFields token)
    (Page.decode Zone.decode)

/-- The zones of a project are the items of all pages, in order. -/
theorem zones_eq_ok_iff {transport : Transport ω} {client : ComputeClient} {budget : Nat}
    {project : String} {zones : List Zone} :
    (client.zones transport budget project).outcome world = (.ok zones, after) ↔
      ∃ pages, Pages (client.zonePage transport project) none world pages after ∧
        pages.length ≤ budget ∧ zones = pages.flatMap (·.items) :=
  listPages_eq_ok_iff

end ComputeClient

end ImageFlow
