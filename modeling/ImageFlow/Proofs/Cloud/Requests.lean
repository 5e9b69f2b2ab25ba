import ImageFlow.Proofs.Cloud.Listing
import ImageFlow.Proofs.Json.Order

/-!
# One request and its answer

A client that can send a request takes the content of the answer, and nothing else happens; a
client that cannot send it asks nothing.  Whether it can depends on the address alone: the fields of
a query are added to a request that can be sent without them.
-/

namespace ImageFlow

variable {ω α β : Type}

/-! ## Outcomes -/

namespace Exchange

variable {x : Exchange ω α} {f : α → Exchange ω β} {world between after : ω}

/-- After a first part that ends well, an exchange ends as its second part does. -/
theorem outcome_bind_of_ok {a : α} (h : x.outcome world = (.ok a, between)) :
    (x >>= f).outcome world = (f a).outcome between := by
  rw [outcome_bind, h]
  rfl

/-- An exchange whose first part fails has failed. -/
theorem outcome_bind_of_error {failure : ClientError}
    (h : x.outcome world = (.error failure, after)) :
    (x >>= f).outcome world = (.error failure, after) := by
  rw [outcome_bind, h]
  rfl

/-- What is done with the value at the end of an exchange changes the value only. -/
theorem outcome_bind_pure (x : Exchange ω α) (g : α → β) (world : ω) :
    (x >>= fun a => pure (g a)).outcome world =
      ((x.outcome world).1.map g, (x.outcome world).2) := by
  rw [outcome_bind]
  rcases x.outcome world with ⟨failure | a, after⟩
  · rfl
  · rfl

theorem outcome_map (g : α → β) (x : Exchange ω α) (world : ω) :
    (g <$> x).outcome world = ((x.outcome world).1.map g, (x.outcome world).2) := by
  rw [← bind_pure_comp, outcome_bind_pure]

theorem outcome_discard (x : Exchange ω α) (world : ω) :
    outcome (discard x) world = ((x.outcome world).1.map fun _ => (), (x.outcome world).2) :=
  outcome_map (fun _ => ()) x world

/-- What is done about a failure at the end of an exchange changes the result only. -/
theorem outcome_tryCatch (x : Exchange ω α) (g : ClientError → Except ClientError α)
    (world : ω) :
    (tryCatch x fun failure => ExceptT.mk (pure (g failure))).outcome world =
      (tryCatch (x.outcome world).1 g, (x.outcome world).2) := by
  have hrun : (tryCatch x fun failure => ExceptT.mk (pure (g failure))).run =
      (x.run >>= fun result => pure (tryCatch result g) : StateM ω _) := by
    rw [ExceptT.run_tryCatch]
    congr 1
    funext result
    cases result with
    | error failure => rfl
    | ok a => rfl
  exact congrFun hrun world

end Exchange

/-! ## Transports -/

namespace Transport

/-- A transport that also writes down the requests that it is given, in order. -/
def recorded (transport : Transport ω) : Transport (ω × List HttpRequest) :=
  fun request (world, sent) =>
    let (answer, world) := transport request world
    (answer, world, sent ++ [request])

/-- What a transport answers to requests that it is given one after another, and the world that it
leaves behind. -/
def serve (transport : Transport ω) : List HttpRequest → ω → List (Option HttpResponse) × ω
  | [], world => ([], world)
  | request :: rest, world =>
    let (answer, between) := transport request world
    let (answers, after) := transport.serve rest between
    (answer :: answers, after)

variable {transport : Transport ω} {request : HttpRequest} {world between after : ω}

theorem serve_cons_eq_iff {rest : List HttpRequest} {answer : Option HttpResponse}
    {answers : List (Option HttpResponse)} :
    transport.serve (request :: rest) world = (answer :: answers, after) ↔
      ∃ between, transport request world = (answer, between) ∧
        transport.serve rest between = (answers, after) := by
  rw [serve]
  constructor
  · intro h
    simp only [Prod.mk.injEq, List.cons.injEq] at h
    obtain ⟨⟨hanswer, hanswers⟩, hafter⟩ := h
    exact ⟨_, Prod.ext hanswer rfl, Prod.ext hanswers hafter⟩
  · rintro ⟨between, hanswer, hrest⟩
    simp only [hanswer, hrest]

theorem recorded_of_answer {answer : Option HttpResponse} {sent : List HttpRequest}
    (h : transport request world = (answer, after)) :
    transport.recorded request (world, sent) = (answer, after, sent ++ [request]) := by
  rw [recorded, h]

theorem outcome_send_of_answer {response : HttpResponse}
    (h : transport request world = (some response, after)) :
    (transport.send request).outcome world = (.ok response, after) := by
  have hsend : (transport.send request).outcome world = transport.send request world := rfl
  rw [hsend, send, h]

theorem outcome_send_of_silence (h : transport request world = (none, after)) :
    (transport.send request).outcome world = (.error .network, after) := by
  have hsend : (transport.send request).outcome world = transport.send request world := rfl
  rw [hsend, send, h]

end Transport

/-! ## Contents of answers -/

theorem Decoder.ofText_eq_ok_iff {inner : Decoder α} {text : String} {value : α} :
    Decoder.ofText inner text = .ok value ↔
      (JsonText.read text).2 = true ∧ inner (JsonText.read text).1 = .ok value := by
  have htext : Decoder.ofText inner text = (do
      let decoded ← inner (JsonText.read text).1
      if (JsonText.read text).2 then return decoded else .error .malformed) := rfl
  rw [htext, bind_eq_ok_iff]
  cases (JsonText.read text).2 with
  | true => simp [pure_eq_ok_iff]
  | false => simp

namespace HttpResponse

variable {response : HttpResponse} {decoder : Decoder α}

def Succeeds (response : HttpResponse) : Prop :=
  200 ≤ response.status ∧ response.status ≤ 299

instance (response : HttpResponse) : Decidable response.Succeeds :=
  inferInstanceAs (Decidable (_ ∧ _))

theorem isSuccess_iff : response.isSuccess = true ↔ response.Succeeds := by
  simp [isSuccess, Succeeds, Nat.lt_succ_iff]

theorem content_of_not_succeeds (h : ¬response.Succeeds) :
    response.content decoder = .error (.api response.status response.complaint) := by
  rw [content, if_neg fun hsuccess => h (isSuccess_iff.mp hsuccess)]

theorem content_eq_ok_iff {value : α} :
    response.content decoder = .ok value ↔
      response.Succeeds ∧ Decoder.ofText decoder response.body = .ok value := by
  rw [content]
  split
  · next hsuccess =>
      rw [and_iff_right (isSuccess_iff.mp hsuccess)]
      cases Decoder.ofText decoder response.body with
      | error problem => simp
      | ok value => simp
  · next hrefused =>
      have hnot : ¬response.Succeeds := fun hsuccess => hrefused (isSuccess_iff.mpr hsuccess)
      simp [hnot]

theorem content_of_undecodable (h : response.Succeeds)
    (hbody : ∀ value, Decoder.ofText decoder response.body ≠ .ok value) :
    response.content decoder = .error .network := by
  rw [content, if_pos (isSuccess_iff.mpr h)]
  cases hdecoded : Decoder.ofText decoder response.body with
  | error problem => rfl
  | ok value => exact absurd hdecoded (hbody value)

end HttpResponse

/-! ## Requests of a client -/

namespace Url

theorem query_addFields_nil (url : Url) :
    (url.addFields []).query = url.query.filter (!·.isEmpty) := by
  rw [addFields, List.map_nil, List.append_nil]
  cases hquery : url.query with
  | none => rfl
  | some query =>
      cases hempty : query.isEmpty with
      | true => simp [Option.filter, hempty]
      | false => simp [Option.filter, hempty]

/-- Adding no fields leaves nothing of a query that is not added to anyway. -/
theorem addFields_addFields_nil (url : Url) (fields : List (String × String)) :
    (url.addFields []).addFields fields = url.addFields fields := by
  have hgiven : (url.addFields []).query.toList.filter (!·.isEmpty) =
      url.query.toList.filter (!·.isEmpty) := by
    rw [query_addFields_nil]
    cases hquery : url.query with
    | none => rfl
    | some query =>
        cases hempty : query.isEmpty with
        | true => simp [Option.filter, hempty]
        | false => simp [Option.filter, hempty]
  rw [addFields, hgiven]
  rfl

end Url

/-- A request with fields added to the query of its URL. -/
def HttpRequest.withFields (request : HttpRequest) (fields : List (String × String)) : HttpRequest :=
  { request with url := request.url.addFields fields }

namespace ApiClient

variable {client : ApiClient} {method : HttpMethod} {path : String}
  {fields : List (String × String)} {body : Option Json} {request : HttpRequest}

/-- A request that can be made without fields can be made with them. -/
theorem request_withFields (h : client.request method path [] body = .ok request)
    (fields : List (String × String)) :
    client.request method path fields body = .ok (request.withFields fields) := by
  rw [ApiClient.request] at h ⊢
  cases hparse : Url.parse (client.baseUrl ++ "/" ++ withoutLeadingSlashes path) with
  | error problem =>
      rw [hparse] at h
      cases h
  | ok url =>
      rw [hparse] at h
      cases hauthorization : client.authorization with
      | error failure =>
          rw [hauthorization] at h
          cases h
      | ok authorization =>
          rw [hauthorization] at h
          obtain rfl := Except.ok.inj h
          simp only [HttpRequest.withFields, Url.addFields_addFields_nil]
          rfl

variable {transport : Transport ω} {decoder : Decoder α} {response : HttpResponse}
  {world after : ω}

/-- A request that can be made is sent. -/
theorem outcome_call_of_request
    (hrequest : client.request method path fields body = .ok request) :
    (client.call transport method path fields body decoder).outcome world =
      (transport.send request >>= fun response =>
        ExceptT.mk (pure (response.content decoder))).outcome world := by
  rw [call, hrequest]
  exact Exchange.outcome_bind_of_ok rfl

/-- A request that is answered ends with the content of the answer. -/
theorem outcome_call_of_answer (hrequest : client.request method path fields body = .ok request)
    (hanswer : transport request world = (some response, after)) :
    (client.call transport method path fields body decoder).outcome world =
      (response.content decoder, after) := by
  rw [outcome_call_of_request hrequest,
    Exchange.outcome_bind_of_ok (Transport.outcome_send_of_answer hanswer)]
  rfl

/-- A request that is not answered ends there. -/
theorem outcome_call_of_unanswered
    (hrequest : client.request method path fields body = .ok request)
    (hsilent : transport request world = (none, after)) :
    (client.call transport method path fields body decoder).outcome world =
      (.error .network, after) := by
  rw [outcome_call_of_request hrequest]
  exact Exchange.outcome_bind_of_error (Transport.outcome_send_of_silence hsilent)

/-- A request that cannot be made is not sent. -/
theorem outcome_call_of_unsent {failure : ClientError}
    (hrequest : client.request method path fields body = .error failure) :
    (client.call transport method path fields body decoder).outcome world =
      (.error failure, world) := by
  rw [call, hrequest]
  exact Exchange.outcome_bind_of_error rfl

end ApiClient

end ImageFlow
