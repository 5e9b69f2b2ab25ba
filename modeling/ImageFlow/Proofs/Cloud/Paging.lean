import ImageFlow.Proofs.Cloud.Requests
import ImageFlow.Proofs.Json.FaithfulRecord

/-!
# Paging loses and repeats nothing

A service answers the requests of a listing with pages that lead on, each by the token of the next
one, until an answer ends it.  For every such chain, of any length, the requests are those for its
pages and no others, and the listing is all items of all pages in their order, if the last answer is
a page as well, and otherwise the failure of that answer.  Only a listing whose requests cannot be
made at all asks nothing.
-/

namespace ImageFlow

variable {ω α : Type}

/-! ## What a page says -/

/-- What the document of a page says: its items, none if the part for them is left out, and the
token of the next page, none if that part is left out, `null` or empty. -/
structure Page.SaidBy (page : Page α) (item : Decoder α) (document : Document) : Prop where
  no_items : document.part? 0 "items" = none → page.items = []
  items : ∀ part, document.part? 0 "items" = some part → Decoder.list item part = .ok page.items
  no_token : document.part? 1 "nextPageToken" = none → page.next? = none
  null_token : document.part? 1 "nextPageToken" = some .null → page.next? = none
  token : ∀ token, document.part? 1 "nextPageToken" = some (.text token) →
    page.next? = if token = "" then none else some token

namespace Page

open Decoder (FieldForm)

def forms (item : Decoder α) : List (FieldForm (Page α)) :=
  [ { key := "items", inner := Decoder.list item, get := (·.items)
      put := fun v p => { p with items := v }, write := fun _ => none }
  , { key := "nextPageToken", inner := Decoder.optional Decoder.text, absence := .nothing
      get := (·.nextToken), put := fun v p => { p with nextToken := v }
      write := fun _ => none } ]

theorem independent_forms (item : Decoder α) : Decoder.Independent (forms item) :=
  ⟨by simp [forms], by simp [forms, Decoder.FieldForm.apart_iff]⟩

theorem next?_eq_ite {page : Page α} {token : String} (h : page.nextToken = some token) :
    page.next? = if token = "" then none else some token := by
  rw [next?, h]
  by_cases hempty : token = ""
  · simp [hempty, Option.filter]
  · simp [hempty, Option.filter]

theorem saidBy_of_decode {item : Decoder α} {document : Document} {page : Page α}
    (h : Page.decode item document = .ok page) : page.SaidBy item document := by
  have hrecord : Decoder.record ((forms item).map FieldForm.toField) {} document = .ok page := h
  have hitems := Decoder.record_read (independent_forms item) hrecord
    (rfl : (forms item)[0]? = some _)
  have htoken := Decoder.record_read (independent_forms item) hrecord
    (rfl : (forms item)[1]? = some _)
  simp only [FieldForm.read] at hitems htoken
  constructor
  · intro hnone
    rw [hnone] at hitems
    exact (Except.ok.inj hitems).symm
  · intro part hpart
    rwa [hpart] at hitems
  · intro hnone
    rw [hnone] at htoken
    rw [next?, ← Except.ok.inj htoken]
    rfl
  · intro hnull
    rw [hnull] at htoken
    rw [next?, ← Except.ok.inj htoken]
    rfl
  · intro token htext
    rw [htext] at htoken
    exact next?_eq_ite (Except.ok.inj htoken).symm

end Page

/-! ## Chains of pages -/

def HttpRequest.withToken (request : HttpRequest) (token : String) : HttpRequest :=
  request.withFields [("pageToken", token)]

/-- The requests for a first page and for those with these tokens. -/
def pageRequests (first : HttpRequest) (tokens : List String) : List HttpRequest :=
  first :: tokens.map first.withToken

/-- A chain of answers to requests for pages: pages that lead on, each by the token of the next one,
and then `answer`. -/
structure PageChain (transport : Transport ω) (item : Decoder α) (first : HttpRequest) (world : ω)
    (pages : List (Page α)) (tokens : List String) (answer : HttpResponse) (after : ω) :
    Prop where
  served : ∃ answers : List HttpResponse,
    transport.serve (pageRequests first tokens) world =
      ((answers ++ [answer]).map some, after) ∧
    answers.map (·.content (Page.decode item)) = pages.map .ok
  leads_on : pages.map Page.next? = tokens.map some

namespace ComputeClient

/-! ## One page after another -/

section Steps

variable {ask : Option String → Exchange ω (Page α)} {budget : Nat} {token : Option String}
  {world between : ω}

theorem outcome_listPages_of_error {failure : ClientError}
    (hfailed : (ask token).outcome world = (.error failure, between)) :
    (listPages ask (budget + 1) token).outcome world = (.error failure, between) := by
  rw [listPages]
  exact Exchange.outcome_bind_of_error hfailed

theorem outcome_listPages_of_last {page : Page α}
    (hpage : (ask token).outcome world = (.ok page, between)) (hlast : page.next? = none) :
    (listPages ask (budget + 1) token).outcome world = (.ok page.items, between) := by
  rw [listPages, Exchange.outcome_bind_of_ok hpage, hlast]
  rfl

theorem outcome_listPages_of_next {page : Page α} {next : String}
    (hpage : (ask token).outcome world = (.ok page, between)) (hnext : page.next? = some next) :
    (listPages ask (budget + 1) token).outcome world =
      (((listPages ask budget (some next)).outcome between).1.map (page.items ++ ·),
        ((listPages ask budget (some next)).outcome between).2) := by
  rw [listPages, Exchange.outcome_bind_of_ok hpage, hnext]
  exact Exchange.outcome_bind_pure _ _ between

end Steps

/-! ## Chains -/

/-- What a listing is that ends with this answer, after pages that lead on. -/
def concludeListing (item : Decoder α) (pages : List (Page α)) (answer : HttpResponse) :
    Except ClientError (List α) :=
  (answer.content (Page.decode item)).map fun last => (pages ++ [last]).flatMap (·.items)

theorem concludeListing_cons (item : Decoder α) (page : Page α) (pages : List (Page α))
    (answer : HttpResponse) :
    concludeListing item (page :: pages) answer =
      (concludeListing item pages answer).map (page.items ++ ·) := by
  rw [concludeListing, concludeListing]
  cases answer.content (Page.decode item) with
  | error failure => rfl
  | ok last => rfl

variable {transport : Transport ω} {client : ApiClient} {path : String} {item : Decoder α}
  {first : HttpRequest}

/-- The page that a client asks for, its requests written down. -/
abbrev askPage (transport : Transport ω) (client : ApiClient) (path : String) (item : Decoder α)
    (token : Option String) : Exchange (ω × List HttpRequest) (Page α) :=
  client.get transport.recorded path (pageFields token) (Page.decode item)

/-- From any page of a chain on, a listing sends the requests that are left, and is what the answers
to them make of it. -/
theorem outcome_listPages_of_chain (hfirst : client.request .get path [] none = .ok first)
    {pages : List (Page α)} {tokens : List String} {answers : List HttpResponse}
    {answer : HttpResponse} {after : ω}
    (hends : ∀ last, answer.content (Page.decode item) = .ok last → last.next? = none)
    (hpages : answers.map (·.content (Page.decode item)) = pages.map .ok)
    (htokens : pages.map Page.next? = tokens.map some)
    {current : HttpRequest} {token : Option String} {world : ω} {sent : List HttpRequest}
    {budget : Nat} (hcurrent : client.request .get path (pageFields token) none = .ok current)
    (hserved : transport.serve (current :: tokens.map first.withToken) world =
      ((answers ++ [answer]).map some, after))
    (hbudget : tokens.length < budget) :
    (listPages (askPage transport client path item) budget token).outcome (world, sent) =
      (concludeListing item pages answer, after,
        sent ++ current :: tokens.map first.withToken) := by
  obtain ⟨budget, rfl⟩ := Nat.exists_eq_succ_of_ne_zero (Nat.ne_zero_of_lt hbudget)
  induction pages generalizing answers tokens current token world sent budget with
  | nil =>
      obtain rfl : answers = [] := List.map_eq_nil_iff.mp hpages
      obtain rfl : tokens = [] := List.map_eq_nil_iff.mp htokens.symm
      obtain ⟨between, hanswer, hrest⟩ := Transport.serve_cons_eq_iff.mp hserved
      obtain rfl : between = after := congrArg Prod.snd hrest
      have hasked : (askPage transport client path item token).outcome (world, sent) =
          (answer.content (Page.decode item), between, sent ++ [current]) :=
        ApiClient.outcome_call_of_answer hcurrent (Transport.recorded_of_answer hanswer)
      rw [concludeListing]
      cases hcontent : answer.content (Page.decode item) with
      | error failure =>
          rw [hcontent] at hasked
          exact outcome_listPages_of_error hasked
      | ok last =>
          rw [hcontent] at hasked
          rw [outcome_listPages_of_last hasked (hends last hcontent)]
          simp [Except.map]
  | cons page pages ih =>
      obtain ⟨response, answers, rfl, hpage, hpages⟩ := List.map_eq_cons_iff.mp hpages
      obtain ⟨next, tokens, rfl, hnext, htokens⟩ := List.map_eq_cons_iff.mp htokens.symm
      obtain ⟨between, hanswer, hrest⟩ := Transport.serve_cons_eq_iff.mp hserved
      have hasked : (askPage transport client path item token).outcome (world, sent) =
          (.ok page, between, sent ++ [current]) := by
        rw [← hpage]
        exact ApiClient.outcome_call_of_answer hcurrent (Transport.recorded_of_answer hanswer)
      have hfollowing : client.request .get path (pageFields (some next)) none =
          .ok (first.withToken next) := ApiClient.request_withFields hfirst _
      obtain ⟨budget, rfl⟩ := Nat.exists_eq_succ_of_ne_zero
        (Nat.ne_zero_of_lt (Nat.lt_of_succ_lt_succ hbudget))
      have hothers : (listPages (askPage transport client path item) (budget + 1)
          (some next)).outcome (between, sent ++ [current]) =
            (concludeListing item pages answer, after,
              sent ++ [current] ++ first.withToken next :: tokens.map first.withToken) :=
        ih hpages htokens.symm hfollowing hrest budget (Nat.lt_of_succ_lt_succ hbudget)
      rw [outcome_listPages_of_next hasked hnext.symm, hothers, concludeListing_cons]
      simp

/-! ## Listings -/

/-- A listing at a path is all items of all pages: however many pages the service answers, it sends
the requests for them and no others, and is their items in order.  If the answer after some pages
is no page, the listing is the failure that this answer is, and nothing more is asked for. -/
structure ListsPages (transport : Transport ω) (client : ApiClient) (path : String)
    (item : Decoder α) (list : Nat → Exchange (ω × List HttpRequest) (List α)) (world : ω) :
    Prop where
  all_items : ∀ {first pages tokens answer last after budget},
    client.request .get path [] none = .ok first →
    PageChain transport item first world pages tokens answer after →
    answer.content (Page.decode item) = .ok last → last.next? = none →
    (pages ++ [last]).length ≤ budget →
      (list budget).outcome (world, []) =
        (.ok ((pages ++ [last]).flatMap (·.items)), after, pageRequests first tokens) ∧
      (pageRequests first tokens).length = (pages ++ [last]).length
  refused : ∀ {first pages tokens answer after budget},
    client.request .get path [] none = .ok first →
    PageChain transport item first world pages tokens answer after →
    ¬answer.Succeeds → pages.length < budget →
      (list budget).outcome (world, []) =
        (.error (.api answer.status answer.complaint), after, pageRequests first tokens)
  undecodable : ∀ {first pages tokens answer after budget},
    client.request .get path [] none = .ok first →
    PageChain transport item first world pages tokens answer after →
    answer.Succeeds → (∀ page, Decoder.ofText (Page.decode item) answer.body ≠ .ok page) →
    pages.length < budget →
      (list budget).outcome (world, []) = (.error .network, after, pageRequests first tokens)
  unsent : ∀ {failure budget}, client.request .get path [] none = .error failure → 0 < budget →
    (list budget).outcome (world, []) = (.error failure, world, [])
  said : ∀ {answer : HttpResponse} {page}, answer.content (Page.decode item) = .ok page →
    page.SaidBy item (JsonText.read answer.body).1

theorem length_tokens {world after : ω} {pages : List (Page α)} {tokens : List String}
    {answer : HttpResponse}
    (h : PageChain transport item first world pages tokens answer after) :
    tokens.length = pages.length := by
  simpa using (congrArg List.length h.leads_on).symm

theorem outcome_list_of_chain {client : ComputeClient}
    (hfirst : client.api.request .get path [] none = .ok first)
    {world after : ω} {pages : List (Page α)} {tokens : List String} {answer : HttpResponse}
    (hchain : PageChain transport item first world pages tokens answer after)
    (hends : ∀ last, answer.content (Page.decode item) = .ok last → last.next? = none)
    {budget : Nat} (hbudget : pages.length < budget) :
    (client.list transport.recorded budget path item).outcome (world, []) =
      (concludeListing item pages answer, after, pageRequests first tokens) := by
  obtain ⟨answers, hserved, hpages⟩ := hchain.served
  have hlonger : tokens.length < budget := by
    rwa [length_tokens hchain]
  have hlisted : (listPages (askPage transport client.api path item) budget none).outcome
      (world, []) =
        (concludeListing item pages answer, after, [] ++ first :: tokens.map first.withToken) :=
    outcome_listPages_of_chain hfirst hends hpages hchain.leads_on hfirst hserved hlonger
  exact hlisted

theorem listsPages_list (transport : Transport ω) (client : ComputeClient) (path : String)
    (item : Decoder α) (world : ω) :
    ListsPages transport client.api path item
      (fun budget => client.list transport.recorded budget path item) world where
  all_items := by
    intro first pages tokens answer last after budget hfirst hchain hlast hnone hbudget
    have hends : ∀ page, answer.content (Page.decode item) = .ok page → page.next? = none := by
      intro page hpage
      obtain rfl : last = page := Except.ok.inj (hlast.symm.trans hpage)
      exact hnone
    have hlength := length_tokens hchain
    rw [List.length_append, List.length_singleton] at hbudget ⊢
    constructor
    · rw [outcome_list_of_chain hfirst hchain hends hbudget, concludeListing, hlast]
      rfl
    · rw [pageRequests, List.length_cons, List.length_map, hlength]
  refused := by
    intro first pages tokens answer after budget hfirst hchain hrefused hbudget
    have hcontent : answer.content (Page.decode item) =
        .error (.api answer.status answer.complaint) :=
      HttpResponse.content_of_not_succeeds hrefused
    rw [outcome_list_of_chain hfirst hchain (by simp [hcontent]) hbudget, concludeListing, hcontent]
    rfl
  undecodable := by
    intro first pages tokens answer after budget hfirst hchain hsuccess hbody hbudget
    have hcontent := HttpResponse.content_of_undecodable hsuccess hbody
    rw [outcome_list_of_chain hfirst hchain (by simp [hcontent]) hbudget, concludeListing, hcontent]
    rfl
  unsent := by
    intro failure budget hunsent hbudget
    obtain ⟨budget, rfl⟩ := Nat.exists_eq_succ_of_ne_zero (Nat.ne_zero_of_lt hbudget)
    exact outcome_listPages_of_error (ApiClient.outcome_call_of_unsent hunsent)
  said := by
    intro answer page hpage
    obtain ⟨-, hbody⟩ := HttpResponse.content_eq_ok_iff.mp hpage
    exact Page.saidBy_of_decode (Decoder.ofText_eq_ok_iff.mp hbody).2

/-- Listings lose and repeat nothing.  The machine types of a zone and the zones of a project are
all items of all pages that the service answers, in order, one request for each page: the first
without a token and each further one with the token of the page before it.  A page whose part for
items is left out has none, and a token that is left out, `null` or empty ends the listing.  If one
of the answers is no success or no page, the listing is this failure, and no further request is
sent. -/
theorem listings_are_all_pages (transport : Transport ω) (client : ComputeClient)
    (project zone : String) (world : ω) :
    ListsPages transport client.api ("projects/" ++ project ++ "/zones/" ++ zone ++ "/machineTypes")
      MachineType.decode
      (fun budget => client.machineTypes transport.recorded budget project zone) world ∧
    ListsPages transport client.api ("projects/" ++ project ++ "/zones") Zone.decode
      (fun budget => client.zones transport.recorded budget project) world :=
  ⟨listsPages_list transport client _ MachineType.decode world,
    listsPages_list transport client _ Zone.decode world⟩

/-! ### Three pages, and a refusal in their midst -/

/-- Replies with the answers that are left, one after another. -/
def replying : Transport (List HttpResponse) := fun _ answers =>
  match answers with
  | [] => (none, [])
  | answer :: rest => (some answer, rest)

def pagedClient : ComputeClient :=
  ⟨⟨.compute, "http://compute.test", none⟩⟩

def zoneRequest : HttpRequest where
  method := .get
  url := { scheme := "http", host := some (.domain "compute.test"), port := none
           path := "/projects/p/zones", query := none }

theorem request_zoneRequest :
    pagedClient.api.request .get ("projects/" ++ "p" ++ "/zones") [] none = .ok zoneRequest := by
  have hparse : Url.parse (pagedClient.api.baseUrl ++ "/" ++
      withoutLeadingSlashes ("projects/" ++ "p" ++ "/zones")) = .ok zoneRequest.url := by
    decide +kernel
  have hfields : zoneRequest.url.addFields [] = zoneRequest.url := by decide +kernel
  have hrequest : pagedClient.api.request .get ("projects/" ++ "p" ++ "/zones") [] none =
      .ok (HttpRequest.withFields zoneRequest []) := by
    rw [ApiClient.request, hparse]
    rfl
  rw [hrequest, HttpRequest.withFields, hfields]

/-- A page with one zone that leads on. -/
def firstZones : HttpResponse :=
  ⟨200, "\x7b\"items\":[\x7b\"name\":\"us-west1-a\",\"status\":\"UP\"\x7d],"
    ++ "\"nextPageToken\":\"a b\"\x7d"⟩

/-- A page without zones that leads on. -/
def noZones : HttpResponse :=
  ⟨200, "\x7b\"nextPageToken\":\"c\"\x7d"⟩

/-- A page with one zone and an empty token. -/
def lastZones : HttpResponse :=
  ⟨200, "\x7b\"items\":[\x7b\"name\":\"us-west1-b\"\x7d],\"nextPageToken\":\"\"\x7d"⟩

theorem content_firstZones : firstZones.content (Page.decode Zone.decode) =
    .ok ⟨[⟨"us-west1-a", "UP"⟩], some "a b"⟩ :=
  HttpResponse.content_eq_ok_iff.mpr ⟨by decide, by cbv⟩

theorem content_noZones : noZones.content (Page.decode Zone.decode) = .ok ⟨[], some "c"⟩ :=
  HttpResponse.content_eq_ok_iff.mpr ⟨by decide, by cbv⟩

theorem content_lastZones : lastZones.content (Page.decode Zone.decode) =
    .ok ⟨[⟨"us-west1-b", ""⟩], some ""⟩ :=
  HttpResponse.content_eq_ok_iff.mpr ⟨by decide, by cbv⟩

theorem pageChain_zones (answer : HttpResponse) :
    PageChain replying Zone.decode zoneRequest [firstZones, noZones, answer]
      [⟨[⟨"us-west1-a", "UP"⟩], some "a b"⟩, ⟨[], some "c"⟩] ["a b", "c"] answer [] where
  served := by
    refine ⟨[firstZones, noZones], rfl, ?_⟩
    rw [List.map_cons, List.map_singleton, content_firstZones, content_noZones]
    rfl
  leads_on := by decide

/-- Three pages are three requests, and a refusal of the third one is the whole result. -/
theorem listings_are_all_pages_three :
    (pagedClient.zones replying.recorded 3 "p").outcome ([firstZones, noZones, lastZones], []) =
        (.ok [⟨"us-west1-a", "UP"⟩, ⟨"us-west1-b", ""⟩], [],
          pageRequests zoneRequest ["a b", "c"]) ∧
      (pagedClient.zones replying.recorded 3 "p").outcome
          ([firstZones, noZones, ⟨503, "busy"⟩], []) =
        (.error (.api 503 "busy"), [], pageRequests zoneRequest ["a b", "c"]) ∧
      (pageRequests zoneRequest ["a b", "c"]).map (·.url.target) =
        ["/projects/p/zones", "/projects/p/zones?pageToken=a+b", "/projects/p/zones?pageToken=c"] := by
  have hcomplaint : HttpResponse.complaint ⟨503, "busy"⟩ = "busy" := by decide +kernel
  have hlisted := fun world => (listings_are_all_pages replying pagedClient "p" "" world).2
  refine ⟨?_, ?_, by decide +kernel⟩
  · exact ((hlisted _).all_items request_zoneRequest (pageChain_zones lastZones)
      content_lastZones (by decide) (Nat.le_refl 3)).1
  · have hrefused := (hlisted _).refused request_zoneRequest (pageChain_zones ⟨503, "busy"⟩)
      (by decide) (Nat.lt_succ_self 2)
    rwa [hcomplaint] at hrefused

end ComputeClient

end ImageFlow
