import ImageFlow.Cloud.Storage
import ImageFlow.Proofs.Cloud.Paging
import ImageFlow.Proofs.Json.ObjectRecord

/-!
# How answers are classified

A request is made or it is not, and it is answered or it is not; only an answer that was brought
back is looked at.  It is a success exactly if its status is one and its body is what was asked
for.  Every other answer is a failure with the status that it came with, and with what the text of
its body says.  The one exception is an answer to the creation of a bucket that finds the bucket in
the way.
-/

namespace ImageFlow

variable {ω α β : Type}

/-! ## What a failure says -/

/-- The text of a body is all of it but a byte order mark at its start. -/
structure IsTextOf (body text : String) : Prop where
  marked : ∀ rest, body.toList = '\uFEFF' :: rest → text = String.ofList rest
  unmarked : (∀ rest, body.toList ≠ '\uFEFF' :: rest) → text = body

inductive Document.IsText : Document → String → Prop where
  | text {said : String} : IsText (.text said) said
  | passable {wanted : Document} {passed : Option JsonProblem} {said : String}
      (h : IsText wanted said) : IsText (.passable wanted passed) said

/-- A document has this part under a key, or none, and nothing else that could not be passed over:
it is an object, or a list of this part alone. -/
inductive Document.Holds (key : String) : Document → Option Document → Prop where
  | object {parts : List (String × Document)} {part : Option Document}
      (parts_eq : Entries.valuesAt key parts = part.toList)
      (others : ∀ other ∈ parts, other.1 ≠ key → other.2.pass = .ok ()) :
      Holds key (.object parts none) part
  | list {part : Option Document} : Holds key (.array part.toList none) part
  | passable {wanted : Document} {passed : Option JsonProblem} {part : Option Document}
      (h : Holds key wanted part) : Holds key (.passable wanted passed) part

namespace Document

variable {key : String} {part : Option Document}

theorem holds_array_iff {items : List Document} {stop : Option JsonProblem} :
    (array items stop).Holds key part ↔ stop = none ∧ items = part.toList := by
  constructor
  · rintro ⟨⟩
    exact ⟨rfl, rfl⟩
  · rintro ⟨rfl, rfl⟩
    exact .list

theorem holds_passable_iff {wanted : Document} {passed : Option JsonProblem} :
    (passable wanted passed).Holds key part ↔ wanted.Holds key part := by
  constructor
  · rintro ⟨⟩
    assumption
  · exact .passable

end Document

/-- A document describes an error by a message, which is empty if it is left out. -/
inductive DescribesError (document : Document) : String → Prop where
  | message {error part : Document} {message : String}
    (herror : document.Holds "error" (some error))
    (hpart : error.Holds "message" (some part)) (hmessage : part.IsText message) :
    DescribesError document message
  | no_message {error : Document} (herror : document.Holds "error" (some error))
    (hpart : error.Holds "message" none) : DescribesError document ""

/-- A text describes an error: it is a document that does, and nothing comes after it. -/
structure TextDescribesError (text message : String) : Prop where
  complete : (JsonText.read text).2 = true
  described : DescribesError (JsonText.read text).1 message

/-- What a text says: the message of the error that it describes, or else the text itself. -/
structure SaysError (text message : String) : Prop where
  described : ∀ said, TextDescribesError text said → message = said
  undescribed : (∀ said, ¬TextDescribesError text said) → message = text

namespace HttpResponse

open Decoder (FieldForm)

theorem isTextOf_text (response : HttpResponse) : IsTextOf response.body response.text := by
  constructor
  · intro rest hbody
    rw [text, hbody]
    rfl
  · intro hbody
    rw [text]
    split
    · next rest hmark => exact absurd hmark (hbody rest)
    · rfl

/-- The one field of a record that is only read. -/
def onlyForm (key : String) (inner : Decoder String) (absence : Decoder.Absence) :
    List (FieldForm String) :=
  [{ key, inner, absence, get := id, put := fun v _ => v, write := fun _ => none }]

theorem independent_onlyForm (key : String) (inner : Decoder String) (absence : Decoder.Absence) :
    Decoder.Independent (onlyForm key inner absence) :=
  ⟨by simp [onlyForm], by simp [onlyForm]⟩

theorem takeObject_onlyForm_eq_ok_iff {key : String} {inner : Decoder String}
    {absence : Decoder.Absence} {parts : List (String × Document)} {stop : Option JsonProblem}
    {value : String} :
    Decoder.takeObject ((onlyForm key inner absence).map FieldForm.toField) Decoder.ignore "" parts
        stop = .ok value ↔
      (∃ part, (Document.object parts stop).Holds key (some part) ∧ inner part = .ok value) ∨
        absence ≠ .refused ∧ (Document.object parts stop).Holds key none ∧ value = "" := by
  rw [Decoder.takeObject_ignore_eq_ok_iff (independent_onlyForm key inner absence)
    fun s h => h _ (List.mem_singleton_self _)]
  simp only [onlyForm, List.forall_mem_singleton, FieldForm.givenBy_iff, id]
  constructor
  · rintro ⟨rfl, ⟨hvalues, hallowed, rfl⟩ | ⟨part, hvalues, hinner⟩, hothers⟩
    · exact .inr ⟨hallowed, .object hvalues hothers, rfl⟩
    · exact .inl ⟨part, .object hvalues hothers, hinner⟩
  · rintro (⟨part, hholds, hinner⟩ | ⟨hallowed, hholds, rfl⟩)
    · cases hholds with
      | object hvalues hothers => exact ⟨rfl, .inr ⟨part, hvalues, hinner⟩, hothers⟩
    · cases hholds with
      | object hvalues hothers => exact ⟨rfl, .inl ⟨hvalues, hallowed, rfl⟩, hothers⟩

theorem take_onlyForm {key : String} {inner : Decoder String} {absence : Decoder.Absence}
    (document : Document) (value : String) :
    (Decoder.field key inner (fun v _ => v) absence).take document value = inner document :=
  id_map (inner document)

theorem takeItems_nil_eq_ok_iff {stop : Option JsonProblem} {initial value : String} :
    Decoder.takeItems [] [] stop initial = .ok value ↔ stop = none ∧ initial = value := by
  cases stop with
  | none => exact ⟨fun h => ⟨rfl, Except.ok.inj h⟩, fun h => congrArg Except.ok h.2⟩
  | some problem => exact iff_of_false nofun nofun

theorem takeItems_onlyForm_eq_ok_iff {key : String} {inner : Decoder String}
    {absence : Decoder.Absence} (hwritten : absence ≠ .nothing) {items : List Document}
    {stop : Option JsonProblem} {value : String} :
    Decoder.takeItems ((onlyForm key inner absence).map FieldForm.toField) items stop "" =
        .ok value ↔
      (∃ part, (Document.array items stop).Holds key (some part) ∧ inner part = .ok value) ∨
        absence ≠ .refused ∧ (Document.array items stop).Holds key none ∧ value = "" := by
  have hform : (onlyForm key inner absence).map FieldForm.toField =
      [Decoder.field key inner (fun v _ => v) absence] := rfl
  have habsence : (Decoder.field key inner (fun v _ => v) absence).absence = absence := rfl
  have hfallback : absence = .fallback ↔ absence ≠ .refused := by
    cases absence <;> simp_all
  rw [hform]
  simp only [Document.holds_array_iff]
  match items with
  | [] =>
      rw [Decoder.takeItems, bind_eq_ok_iff, habsence]
      by_cases hleft : absence = .fallback
      · have hallowed := hfallback.mp hleft
        rw [if_pos hleft]
        cases stop with
        | none => simp [Document.raise, takeItems_nil_eq_ok_iff, hallowed]
        | some problem => simp [Document.raise]
      · simp [hleft, hfallback.not.mp hleft]
  | [item] =>
      rw [Decoder.takeItems, take_onlyForm, bind_eq_ok_iff]
      simp [takeItems_nil_eq_ok_iff, and_comm]
  | first :: second :: rest =>
      rw [Decoder.takeItems, bind_eq_ok_iff]
      simp [Decoder.takeItems]

/-- A record of one field is what its part says, or it is empty without the part, where that may be
left out. -/
theorem record_onlyForm_eq_ok_iff {key : String} {inner : Decoder String}
    {absence : Decoder.Absence} (hwritten : absence ≠ .nothing) {document : Document}
    {value : String} :
    Decoder.record ((onlyForm key inner absence).map FieldForm.toField) "" document = .ok value ↔
      (∃ part, document.Holds key (some part) ∧ inner part = .ok value) ∨
        absence ≠ .refused ∧ document.Holds key none ∧ value = "" := by
  fun_induction Decoder.record _ "" document with
  | case1 parts stop => exact takeObject_onlyForm_eq_ok_iff
  | case2 items stop => exact takeItems_onlyForm_eq_ok_iff hwritten
  | case3 problem =>
      refine iff_of_false nofun ?_
      rintro (⟨part, ⟨⟩, -⟩ | ⟨-, ⟨⟩, -⟩)
  | case4 wanted passed ih => simpa only [Document.holds_passable_iff] using ih
  | case5 document hobject hlist _ hpassable =>
      have hnone (part : Option Document) : ¬document.Holds key part := by
        intro hholds
        cases hholds with
        | object => exact hobject _ _ rfl
        | list => exact hlist _ _ rfl
        | passable => exact hpassable _ _ rfl
      refine iff_of_false nofun ?_
      rintro (⟨part, hholds, -⟩ | ⟨-, hholds, -⟩)
      · exact hnone _ hholds
      · exact hnone _ hholds

theorem text_eq_ok_iff {document : Document} {said : String} :
    Decoder.text document = .ok said ↔ document.IsText said := by
  constructor
  · intro h
    fun_induction Decoder.text document with
    | case1 text =>
        obtain rfl := Except.ok.inj h
        exact .text
    | case2 problem => cases h
    | case3 wanted passed ih => exact .passable (ih h)
    | case4 => cases h
  · intro h
    induction h with
    | text => rfl
    | passable _ ih => exact ih

theorem decodeMessage_eq_ok_iff {error : Document} {message : String} :
    decodeMessage error = .ok message ↔
      (∃ part, error.Holds "message" (some part) ∧ part.IsText message) ∨
        error.Holds "message" none ∧ message = "" := by
  have honly := @record_onlyForm_eq_ok_iff "message" Decoder.text .fallback nofun error message
  simp only [text_eq_ok_iff] at honly
  rw [← and_iff_right (nofun : Decoder.Absence.fallback ≠ .refused) (b := _ ∧ _)]
  exact honly

/-- The texts that are taken for the description of an error are those that describe one. -/
theorem decodeEnvelope_eq_ok_iff {text message : String} :
    Decoder.ofText decodeEnvelope text = .ok message ↔ TextDescribesError text message := by
  have honly := @record_onlyForm_eq_ok_iff "error" decodeMessage .refused nofun
    (JsonText.read text).1 message
  rw [Decoder.ofText_eq_ok_iff]
  constructor
  · rintro ⟨hcomplete, henvelope⟩
    refine ⟨hcomplete, ?_⟩
    obtain ⟨error, herror, hinner⟩ | ⟨hrefused, -⟩ := honly.mp henvelope
    · obtain ⟨part, hpart, hmessage⟩ | ⟨hpart, rfl⟩ := decodeMessage_eq_ok_iff.mp hinner
      · exact .message herror hpart hmessage
      · exact .no_message herror hpart
    · exact absurd rfl hrefused
  · rintro ⟨hcomplete, hdescribed⟩
    refine ⟨hcomplete, honly.mpr (.inl ?_)⟩
    cases hdescribed with
    | message herror hpart hmessage =>
        exact ⟨_, herror, decodeMessage_eq_ok_iff.mpr (.inl ⟨_, hpart, hmessage⟩)⟩
    | no_message herror hpart =>
        exact ⟨_, herror, decodeMessage_eq_ok_iff.mpr (.inr ⟨hpart, rfl⟩)⟩

theorem saysError_complaint (response : HttpResponse) :
    SaysError response.text response.complaint := by
  constructor
  · intro said hsaid
    rw [complaint, decodeEnvelope_eq_ok_iff.mpr hsaid]
  · intro hnone
    rw [complaint]
    split
    · next message hmessage => exact absurd (decodeEnvelope_eq_ok_iff.mp hmessage) (hnone message)
    · rfl

end HttpResponse

/-! ## Answers -/

/-- An answer is taken for what it is: a success with the content that was asked for, of which
`take` is kept, or else a failure. -/
structure Classified (decoder : Decoder α) (take : α → β) (response : HttpResponse)
    (result : Except ClientError β) : Prop where
  ok_iff : ∀ value, result = .ok value ↔
    response.Succeeds ∧ ∃ content, Decoder.ofText decoder response.body = .ok content ∧
      take content = value
  undecodable : response.Succeeds →
    (∀ content, Decoder.ofText decoder response.body ≠ .ok content) → result = .error .network
  refused : ¬response.Succeeds → ∃ text message, IsTextOf response.body text ∧
    SaysError text message ∧ result = .error (.api response.status message)

/-- An answer that describes an error is taken for this error. -/
theorem Classified.eq_error_of_described
    {decoder : Decoder α} {take : α → β} {response : HttpResponse} {result : Except ClientError β}
    (h : Classified decoder take response result) (hrefused : ¬response.Succeeds)
    (hunmarked : response.body.toList.head? ≠ some '\uFEFF') {said : String}
    (hsaid : TextDescribesError response.body said) :
    result = .error (.api response.status said) := by
  obtain ⟨text, message, htext, hmessage, hresult⟩ := h.refused hrefused
  have hwhole : text = response.body := htext.unmarked fun rest hbody => by
    simp [hbody] at hunmarked
  rw [hwhole] at hmessage
  rw [hresult, hmessage.described said hsaid]

/-- After the answer there is a bucket: it was made, or it was in the way. -/
def HttpResponse.LeavesBucket (response : HttpResponse) : Prop :=
  response.status = 409 ∨
    response.Succeeds ∧ ∃ content, Decoder.ofText Decoder.json response.body = .ok content

/-- The answer to the creation of a bucket is taken for what it is, unless it finds the bucket in
the way: then nothing has failed. -/
structure ClassifiedCreation (response : HttpResponse) (result : Except ClientError Unit) :
    Prop where
  ok_iff : result = .ok () ↔ response.LeavesBucket
  otherwise : response.status ≠ 409 → Classified Decoder.json (fun _ => ()) response result

namespace HttpResponse

variable {decoder : Decoder α} {take : α → β} {response : HttpResponse}

theorem classified_content :
    Classified decoder take response ((response.content decoder).map take) where
  ok_iff value := by
    constructor
    · intro h
      obtain ⟨content, hcontent, rfl⟩ := map_eq_ok_iff.mp h
      obtain ⟨hsucceeds, hbody⟩ := content_eq_ok_iff.mp hcontent
      exact ⟨hsucceeds, content, hbody, rfl⟩
    · rintro ⟨hsucceeds, content, hbody, rfl⟩
      exact map_eq_ok_iff.mpr ⟨content, content_eq_ok_iff.mpr ⟨hsucceeds, hbody⟩, rfl⟩
  undecodable hsucceeds hbody := by
    rw [content_of_undecodable hsucceeds hbody]
    rfl
  refused hrefused := by
    refine ⟨response.text, response.complaint, response.isTextOf_text,
      response.saysError_complaint, ?_⟩
    rw [content_of_not_succeeds hrefused]
    rfl

end HttpResponse

/-! ## One request -/

/-- An exchange is one request, if it can be made, and what the answer to it is taken for. -/
structure AsksOnce (transport : Transport ω) (made : Except ClientError HttpRequest)
    (taken : HttpResponse → Except ClientError β → Prop)
    (exchange : Exchange (ω × List HttpRequest) β) (world : ω) : Prop where
  answered : ∀ {request response after}, made = .ok request →
    transport request world = (some response, after) →
      ∃ result, exchange.outcome (world, []) = (result, after, [request]) ∧ taken response result
  unanswered : ∀ {request after}, made = .ok request →
    transport request world = (none, after) →
      exchange.outcome (world, []) = (.error .network, after, [request])
  unsent : ∀ {failure}, made = .error failure →
    exchange.outcome (world, []) = (.error .network, world, [])

namespace ApiClient

variable {client : ApiClient} {method : HttpMethod} {path : String}
  {fields : List (String × String)} {body : Option Json} {decoder : Decoder α}

theorem request_eq_error {failure : ClientError}
    (h : client.request method path fields body = .error failure) : failure = .network := by
  rw [ApiClient.request] at h
  cases hparse : Url.parse (client.baseUrl ++ "/" ++ withoutLeadingSlashes path) with
  | error problem =>
      rw [hparse] at h
      exact (Except.error.inj h).symm
  | ok url =>
      rw [hparse] at h
      cases hauthorization : client.authorization with
      | ok authorization =>
          rw [hauthorization] at h
          cases h
      | error problem =>
          rw [hauthorization] at h
          obtain rfl : problem = failure := Except.error.inj h
          rw [authorization] at hauthorization
          cases htoken : client.token with
          | none => simp [htoken] at hauthorization
          | some token =>
              simp only [htoken] at hauthorization
              split at hauthorization
              · cases hauthorization
              · exact (Except.error.inj hauthorization).symm

variable {transport : Transport ω} {world : ω}

/-- A call whose result is only looked at, by a function of it, asks once. -/
theorem asksOnce_of_call {exchange : Exchange (ω × List HttpRequest) β}
    {taken : HttpResponse → Except ClientError β → Prop}
    {g : Except ClientError α → Except ClientError β}
    (hexchange : ∀ world, exchange.outcome world =
      (g ((client.call transport.recorded method path fields body decoder).outcome world).1,
        ((client.call transport.recorded method path fields body decoder).outcome world).2))
    (hnetwork : g (.error .network) = .error .network)
    (htaken : ∀ response, taken response (g (response.content decoder))) :
    AsksOnce transport (client.request method path fields body) taken exchange world where
  answered {request response after} hrequest hanswer := by
    have hrecorded : transport.recorded request (world, []) = (some response, after, [request]) :=
      Transport.recorded_of_answer hanswer
    have hcall : (client.call transport.recorded method path fields body decoder).outcome
        (world, []) = (response.content decoder, after, [request]) :=
      outcome_call_of_answer hrequest hrecorded
    exact ⟨_, by rw [hexchange, hcall], htaken response⟩
  unanswered {request after} hrequest hsilent := by
    have hrecorded : transport.recorded request (world, []) = (none, after, [request]) :=
      Transport.recorded_of_answer hsilent
    rw [hexchange, outcome_call_of_unanswered hrequest hrecorded, hnetwork]
  unsent {failure} hunsent := by
    rw [hexchange, outcome_call_of_unsent hunsent, request_eq_error hunsent, hnetwork]

/-- A request for what stands at a path asks once. -/
theorem asksOnce_get (transport : Transport ω) (client : ApiClient) (path : String)
    (fields : List (String × String)) (decoder : Decoder α) (world : ω) :
    AsksOnce transport (client.request .get path fields none) (Classified decoder id)
      (client.get transport.recorded path fields decoder) world := by
  refine asksOnce_of_call (g := Except.map id) (fun world => ?_) rfl fun response =>
    HttpResponse.classified_content
  rw [Except.map_id]
  rfl

/-- A body that is sent to a path is sent once, and of the answer only its kind matters. -/
theorem asksOnce_post (transport : Transport ω) (client : ApiClient) (path : String)
    (fields : List (String × String)) (body : Json) (world : ω) :
    AsksOnce transport (client.request .post path fields (some body))
      (Classified Decoder.json fun _ => ())
      (client.post transport.recorded path fields body) world :=
  asksOnce_of_call (g := Except.map fun _ => ())
    (Exchange.outcome_discard _) rfl fun _ => HttpResponse.classified_content

end ApiClient

/-! ## The clients -/

/-- Every single request of a client of the compute service is classified. -/
structure ComputeClient.Classifies (transport : Transport ω) (client : ComputeClient) (world : ω) :
    Prop where
  image : ∀ project name, AsksOnce transport
    (client.api.request .get ("projects/" ++ project ++ "/global/images/" ++ name) [] none)
    (Classified StoredDisk.decode id) (client.image transport.recorded project name) world
  snapshot : ∀ project name, AsksOnce transport
    (client.api.request .get ("projects/" ++ project ++ "/global/snapshots/" ++ name) [] none)
    (Classified StoredDisk.decode id) (client.snapshot transport.recorded project name) world
  subnetwork : ∀ project region name, AsksOnce transport
    (client.api.request .get
      ("projects/" ++ project ++ "/regions/" ++ region ++ "/subnetworks/" ++ name) [] none)
    (Classified Subnetwork.decode id) (client.subnetwork transport.recorded project region name)
    world
  createImage : ∀ project spec, AsksOnce transport
    (client.api.request .post ("projects/" ++ project ++ "/global/images") []
      (some (ImageSpec.encode spec)))
    (Classified Decoder.json fun _ => ()) (client.createImage transport.recorded project spec) world
  zonePage : ∀ project token, AsksOnce transport
    (client.api.request .get ("projects/" ++ project ++ "/zones") (pageFields token) none)
    (Classified (Page.decode Zone.decode) id)
    (askPage transport client.api ("projects/" ++ project ++ "/zones") Zone.decode token) world
  machineTypePage : ∀ project zone token, AsksOnce transport
    (client.api.request .get
      ("projects/" ++ project ++ "/zones/" ++ zone ++ "/machineTypes") (pageFields token) none)
    (Classified (Page.decode MachineType.decode) id)
    (askPage transport client.api ("projects/" ++ project ++ "/zones/" ++ zone ++ "/machineTypes")
      MachineType.decode token) world

theorem ComputeClient.classifies (transport : Transport ω) (client : ComputeClient) (world : ω) :
    ComputeClient.Classifies transport client world where
  image _ _ := ApiClient.asksOnce_get transport client.api _ [] StoredDisk.decode world
  snapshot _ _ := ApiClient.asksOnce_get transport client.api _ [] StoredDisk.decode world
  subnetwork _ _ _ := ApiClient.asksOnce_get transport client.api _ [] Subnetwork.decode world
  createImage _ _ := ApiClient.asksOnce_post transport client.api _ [] _ world
  zonePage _ _ := ApiClient.asksOnce_get transport client.api _ _ (Page.decode Zone.decode) world
  machineTypePage _ _ _ :=
    ApiClient.asksOnce_get transport client.api _ _ (Page.decode MachineType.decode) world

/-- What a refusal says is told without the byte order mark in front of it. -/
theorem image_refused_without_mark :
    let refusal : HttpResponse := ⟨500, "\uFEFFbackend unavailable"⟩
    let outcome := (ComputeClient.pagedClient.image ComputeClient.replying "p" "i").outcome [refusal]
    ¬refusal.Succeeds ∧
      (∀ message, ¬TextDescribesError refusal.body message) ∧
      outcome = (.error (.api 500 "backend unavailable"), []) ∧
      outcome ≠ (.error (.api refusal.status refusal.body), []) := by
  intro refusal outcome
  have houtcome : outcome = (.error (.api 500 "backend unavailable"), []) := by decide +kernel
  have hundescribed : ∀ message, ¬TextDescribesError refusal.body message := by
    intro message hmessage
    have hmalformed : Decoder.ofText HttpResponse.decodeEnvelope refusal.body =
        .error .malformed := by decide +kernel
    rw [HttpResponse.decodeEnvelope_eq_ok_iff.mpr hmessage] at hmalformed
    cases hmalformed
  refine ⟨by decide, hundescribed, houtcome, ?_⟩
  rw [houtcome]
  decide

/-- Every single request of a client of the storage service is classified; only a bucket that is in
the way of a new one is no failure. -/
structure StorageClient.Classifies (transport : Transport ω) (client : StorageClient) (world : ω) :
    Prop where
  bucketLocation : ∀ bucket, AsksOnce transport
    (client.api.request .get ("b/" ++ bucket) [] none)
    (Classified Bucket.decode Bucket.location) (client.bucketLocation transport.recorded bucket)
    world
  createBucket : ∀ project bucket location, AsksOnce transport
    (client.api.request .post "b" [("project", project)]
      (some (Bucket.encode ⟨bucket, location⟩)))
    ClassifiedCreation (client.createBucket transport.recorded project bucket location) world

namespace StorageClient

/-- What the creation of a bucket makes of how its request ends. -/
def tolerated (result : Except ClientError Unit) : Except ClientError Unit :=
  tryCatch result toleratingConflict

theorem tolerated_api_of_ne {status : Nat} (h : status ≠ 409) (message : String) :
    tolerated (.error (.api status message)) = .error (.api status message) :=
  if_neg h

theorem tolerated_content_of_conflict {response : HttpResponse} (h : response.status = 409) :
    tolerated ((response.content Decoder.json).map fun _ => ()) = .ok () := by
  have hrefused : ¬response.Succeeds := by
    rintro ⟨-, hlast⟩
    omega
  rw [HttpResponse.content_of_not_succeeds hrefused, h]
  rfl

/-- No other failure is tolerated. -/
theorem tolerated_content_of_ne {response : HttpResponse} (h : response.status ≠ 409) :
    tolerated ((response.content Decoder.json).map fun _ => ()) =
      (response.content Decoder.json).map fun _ => () := by
  by_cases hsucceeds : response.Succeeds
  · by_cases hbody : ∃ content, Decoder.ofText Decoder.json response.body = .ok content
    · obtain ⟨content, hcontent⟩ := hbody
      rw [HttpResponse.content_eq_ok_iff.mpr ⟨hsucceeds, hcontent⟩]
      rfl
    · rw [HttpResponse.content_of_undecodable hsucceeds (not_exists.mp hbody)]
      rfl
  · rw [HttpResponse.content_of_not_succeeds hsucceeds]
    exact tolerated_api_of_ne h response.complaint

theorem classifiedCreation_tolerated (response : HttpResponse) :
    ClassifiedCreation response
      (tolerated ((response.content Decoder.json).map fun _ => ())) := by
  by_cases hconflict : response.status = 409
  · rw [tolerated_content_of_conflict hconflict]
    exact ⟨iff_of_true rfl (.inl hconflict), fun h => absurd hconflict h⟩
  · have hclassified : Classified Decoder.json (fun _ => ()) response
        ((response.content Decoder.json).map fun _ => ()) := HttpResponse.classified_content
    rw [tolerated_content_of_ne hconflict]
    refine ⟨?_, fun _ => hclassified⟩
    rw [hclassified.ok_iff, HttpResponse.LeavesBucket]
    simp [hconflict]

theorem outcome_createBucket (transport : Transport ω) (client : StorageClient)
    (project bucket location : String) (world : ω) :
    (client.createBucket transport project bucket location).outcome world =
      (tolerated (((client.api.call transport .post "b" [("project", project)]
          (some (Bucket.encode ⟨bucket, location⟩)) Decoder.json).outcome world).1.map fun _ => ()),
        ((client.api.call transport .post "b" [("project", project)]
          (some (Bucket.encode ⟨bucket, location⟩)) Decoder.json).outcome world).2) := by
  rw [createBucket, ApiClient.post, Exchange.outcome_tryCatch, Exchange.outcome_discard]
  rfl

theorem classifies (transport : Transport ω) (client : StorageClient) (world : ω) :
    StorageClient.Classifies transport client world where
  bucketLocation bucket := by
    refine ApiClient.asksOnce_of_call (g := Except.map Bucket.location) (fun world => ?_) rfl
      fun _ => HttpResponse.classified_content
    exact Exchange.outcome_map _ _ world
  createBucket project bucket location :=
    ApiClient.asksOnce_of_call (g := fun result => tolerated (result.map fun _ => ()))
      (outcome_createBucket transport.recorded client project bucket location) rfl
      classifiedCreation_tolerated

end StorageClient

end ImageFlow
