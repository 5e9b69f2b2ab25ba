import ImageFlow.Proofs.Cloud.Classified
import ImageFlow.Proofs.Resolve.Transcript
import ImageFlow.Resolve.Resolver

/-!
# Resolutions against clouds that answer alike

Two clouds answer alike if, in worlds that belong together, they give the same answers and leave
worlds behind that belong together again.  Every way of putting conversations together keeps this,
so a resolution comes to the same end against both.  It only asks for the creation of a bucket and
otherwise looks things up.  Services that differ in what they say to a creation therefore answer a
resolution alike, as long as both leave a bucket behind.
-/

namespace ImageFlow

variable {ω ω' ε α β : Type}

/-! ## Alike exchanges -/

/-- Two outcomes are the same, and the worlds that are left behind belong together. -/
structure SameOutcome (R : ω → ω' → Prop) (left : Except ε α × ω) (right : Except ε α × ω') :
    Prop where
  result : left.1 = right.1
  worlds : R left.2 right.2

/-- In worlds that belong together, two exchanges have the same outcome. -/
def Exchange.Alike (R : ω → ω' → Prop) (left : Exchange ω α) (right : Exchange ω' α) : Prop :=
  ∀ world world', R world world' → SameOutcome R (left.outcome world) (right.outcome world')

namespace Exchange.Alike

variable {R : ω → ω' → Prop}

theorem pure (value : α) :
    Exchange.Alike R (Pure.pure value : Exchange ω α) (Pure.pure value : Exchange ω' α) :=
  fun _ _ h => ⟨rfl, h⟩

theorem throw (failure : ClientError) :
    Exchange.Alike R (throw failure : Exchange ω α) (throw failure : Exchange ω' α) :=
  fun _ _ h => ⟨rfl, h⟩

theorem lift (result : Except ClientError α) :
    Exchange.Alike R (ExceptT.mk (Pure.pure result) : Exchange ω α)
      (ExceptT.mk (Pure.pure result) : Exchange ω' α) :=
  fun _ _ h => ⟨rfl, h⟩

theorem bind {x : Exchange ω α} {x' : Exchange ω' α} {f : α → Exchange ω β}
    {f' : α → Exchange ω' β} (hx : Exchange.Alike R x x')
    (hf : ∀ a, Exchange.Alike R (f a) (f' a)) : Exchange.Alike R (x >>= f) (x' >>= f') := by
  intro world world' hworlds
  obtain ⟨hresult, hbetween⟩ := hx world world' hworlds
  rw [outcome_bind, outcome_bind, ← hresult]
  cases (x.outcome world).1 with
  | error failure => exact ⟨rfl, hbetween⟩
  | ok a => exact hf a _ _ hbetween

theorem map {x : Exchange ω α} {x' : Exchange ω' α} (hx : Exchange.Alike R x x') (g : α → β) :
    Exchange.Alike R (g <$> x) (g <$> x') := by
  rw [← bind_pure_comp, ← bind_pure_comp]
  exact bind hx fun a => pure (g a)

end Exchange.Alike

/-! ## Alike services -/

/-- Two services look things up alike, and after a creation there is a bucket with both of them. -/
structure Transport.AlikeButCreation (R : ω → ω' → Prop) (left : Transport ω)
    (right : Transport ω') : Prop where
  looked_up : ∀ {request world world'}, request.method = .get → R world world' →
    (left request world).1 = (right request world').1 ∧
      R (left request world).2 (right request world').2
  created : ∀ {request world world'}, request.method = .post → R world world' →
    ∃ response response', (left request world).1 = some response ∧
      (right request world').1 = some response' ∧
      response.LeavesBucket ∧ response'.LeavesBucket ∧
      R (left request world).2 (right request world').2

theorem ApiClient.method_of_request {client : ApiClient} {method : HttpMethod} {path : String}
    {fields : List (String × String)} {body : Option Json} {request : HttpRequest}
    (h : client.request method path fields body = .ok request) : request.method = method := by
  rw [ApiClient.request] at h
  split at h
  · cases h
  · obtain ⟨authorization, -, hrequest⟩ := bind_eq_ok_iff.mp h
    rw [← pure_eq_ok_iff.mp hrequest]

namespace Transport.AlikeButCreation

variable {R : ω → ω' → Prop} {left : Transport ω} {right : Transport ω'}

theorem send (h : left.AlikeButCreation R right) {request : HttpRequest}
    (hget : request.method = .get) :
    Exchange.Alike R (left.send request) (right.send request) := by
  intro world world' hworlds
  obtain ⟨hanswer, hafter⟩ := h.looked_up hget hworlds
  cases hleft : (left request world).1 with
  | none =>
      rw [Transport.outcome_send_of_silence (Prod.ext hleft rfl),
        Transport.outcome_send_of_silence (Prod.ext (hanswer.symm.trans hleft) rfl)]
      exact ⟨rfl, hafter⟩
  | some response =>
      rw [Transport.outcome_send_of_answer (Prod.ext hleft rfl),
        Transport.outcome_send_of_answer (Prod.ext (hanswer.symm.trans hleft) rfl)]
      exact ⟨rfl, hafter⟩

theorem get (h : left.AlikeButCreation R right) (client : ApiClient) (path : String)
    (fields : List (String × String)) (decoder : Decoder α) :
    Exchange.Alike R (client.get left path fields decoder) (client.get right path fields decoder) := by
  intro world world' hworlds
  rw [ApiClient.get, ApiClient.get]
  cases hrequest : client.request .get path fields none with
  | error failure =>
      rw [ApiClient.outcome_call_of_unsent hrequest, ApiClient.outcome_call_of_unsent hrequest]
      exact ⟨rfl, hworlds⟩
  | ok request =>
      rw [ApiClient.outcome_call_of_request hrequest, ApiClient.outcome_call_of_request hrequest]
      have hsend := h.send (ApiClient.method_of_request hrequest)
      exact hsend.bind (fun response => .lift _) world world' hworlds

theorem metadata (h : left.AlikeButCreation R right) (client : MetadataClient) (path : String) :
    Exchange.Alike R (client.get left path) (client.get right path) := by
  rw [MetadataClient.get, MetadataClient.get]
  cases Url.parse (client.baseUrl ++ "/" ++ path) with
  | error problem => exact .throw _
  | ok url =>
      refine (h.send rfl).bind fun response => ?_
      split
      · exact .pure _
      · exact .throw _

/-- All pages of a listing are looked up. -/
theorem list (h : left.AlikeButCreation R right) (client : ComputeClient) (budget : Nat)
    (path : String) (item : Decoder α) :
    Exchange.Alike R (client.list left budget path item) (client.list right budget path item) := by
  rw [ComputeClient.list, ComputeClient.list]
  generalize (none : Option String) = token
  induction budget generalizing token with
  | zero => exact .throw _
  | succ budget ih =>
      rw [ComputeClient.listPages, ComputeClient.listPages]
      refine (h.get client.api path _ _).bind fun page => ?_
      cases page.next? with
      | none => exact .pure _
      | some next => exact (ih (some next)).bind fun items => .pure _

theorem createBucket (h : left.AlikeButCreation R right) (client : StorageClient)
    (project bucket location : String) :
    Exchange.Alike R (client.createBucket left project bucket location)
      (client.createBucket right project bucket location) := by
  intro world world' hworlds
  rw [StorageClient.outcome_createBucket, StorageClient.outcome_createBucket]
  cases hrequest : client.api.request .post "b" [("project", project)]
      (some (Bucket.encode ⟨bucket, location⟩)) with
  | error failure =>
      rw [ApiClient.outcome_call_of_unsent hrequest, ApiClient.outcome_call_of_unsent hrequest]
      exact ⟨rfl, hworlds⟩
  | ok request =>
      obtain ⟨response, response', hleft, hright, hleaves, hleaves', hafter⟩ :=
        h.created (ApiClient.method_of_request hrequest) hworlds
      rw [ApiClient.outcome_call_of_answer hrequest (Prod.ext hleft rfl),
        ApiClient.outcome_call_of_answer hrequest (Prod.ext hright rfl),
        (StorageClient.classifiedCreation_tolerated response).ok_iff.mpr hleaves,
        (StorageClient.classifiedCreation_tolerated response').ok_iff.mpr hleaves']
      exact ⟨rfl, hafter⟩

end Transport.AlikeButCreation

/-! ## Alike clouds -/

/-- Two clouds answer alike whatever they are asked but for the creation of an image. -/
def Cloud.Alike (R : ω → ω' → Prop) (left : Cloud ω) (right : Cloud ω') : Prop :=
  ∀ call, (∀ project spec, call ≠ .createImage project spec) →
    Exchange.Alike R (left call) (right call)

theorem Cloud.alike_ofClients {R : ω → ω' → Prop} {left : Transport ω} {right : Transport ω'}
    (h : left.AlikeButCreation R right) (metadata : MetadataClient) (storage : StorageClient)
    (compute : ComputeClient) (budget : Nat) :
    Cloud.Alike R (.ofClients left metadata storage compute budget)
      (.ofClients right metadata storage compute budget) := by
  intro call hcall
  cases call with
  | metadataProject => exact h.metadata metadata _
  | metadataZone => exact (h.metadata metadata _).bind fun path => .pure _
  | bucketLocation bucket => exact (h.get storage.api _ _ _).map _
  | createBucket project bucket location => exact h.createBucket storage project bucket location
  | zones project => exact h.list compute budget _ _
  | machineTypes project zone => exact h.list compute budget _ _
  | image project name => exact h.get compute.api _ _ _
  | snapshot project name => exact h.get compute.api _ _ _
  | subnetwork project region name => exact h.get compute.api _ _ _
  | createImage project spec => exact absurd rfl (hcall project spec)

/-! ## Alike sessions -/

/-- In worlds that belong together, two sessions have the same outcome. -/
def Session.Alike (R : ω → ω' → Prop) (left : Session ω ε α) (right : Session ω' ε α) : Prop :=
  ∀ world world', R world world' → SameOutcome R (left.outcome world) (right.outcome world')

namespace Session.Alike

variable {R : ω → ω' → Prop}

theorem pure (value : α) :
    Session.Alike R (Pure.pure value : Session ω ε α) (Pure.pure value : Session ω' ε α) :=
  fun _ _ h => ⟨rfl, h⟩

theorem throw (failure : ε) :
    Session.Alike R (throw failure : Session ω ε α) (throw failure : Session ω' ε α) :=
  fun _ _ h => ⟨rfl, h⟩

theorem lift (result : Except ε α) :
    Session.Alike R (ExceptT.mk (Pure.pure result) : Session ω ε α)
      (ExceptT.mk (Pure.pure result) : Session ω' ε α) :=
  fun _ _ h => ⟨rfl, h⟩

theorem tell (event : LogEvent) :
    Session.Alike R (Session.tell event : Session ω ε Unit)
      (Session.tell event : Session ω' ε Unit) :=
  fun _ _ h => ⟨rfl, h⟩

theorem ask {left : Cloud ω} {right : Cloud ω'} {call : CloudCall}
    (h : Exchange.Alike R (left call) (right call)) (fail : ClientError → ε) :
    Session.Alike R (Session.ask left call fail) (Session.ask right call fail) := by
  intro world world' hworlds
  obtain ⟨hresult, hafter⟩ := h world world' hworlds
  exact ⟨congrArg (Except.mapError fail) hresult, hafter⟩

theorem attempt {left : Cloud ω} {right : Cloud ω'} {call : CloudCall}
    (h : Exchange.Alike R (left call) (right call)) :
    Session.Alike R (Session.attempt left call : Session ω ε _)
      (Session.attempt right call : Session ω' ε _) := by
  intro world world' hworlds
  obtain ⟨hresult, hafter⟩ := h world world' hworlds
  exact ⟨congrArg Except.ok hresult, hafter⟩

theorem bind {x : Session ω ε α} {x' : Session ω' ε α} {f : α → Session ω ε β}
    {f' : α → Session ω' ε β} (hx : Session.Alike R x x')
    (hf : ∀ a, Session.Alike R (f a) (f' a)) : Session.Alike R (x >>= f) (x' >>= f') := by
  intro world world' hworlds
  obtain ⟨hresult, hbetween⟩ := hx world world' hworlds
  rw [outcome_bind, outcome_bind, ← hresult]
  cases (x.outcome world).1 with
  | error failure => exact ⟨rfl, hbetween⟩
  | ok a => exact hf a _ _ hbetween

end Session.Alike

open Session (Alike)

/-! ## The steps of a resolution -/

/-- Two pairs of lookups have the same outcomes. -/
structure Collaborators.Alike (R : ω → ω' → Prop) (lookups : Collaborators ω)
    (lookups' : Collaborators ω') : Prop where
  network : ∀ network subnet region project,
    Session.Alike R (lookups.network network subnet region project)
      (lookups'.network network subnet region project)
  series : ∀ project zone, Session.Alike R (lookups.series project zone)
    (lookups'.series project zone)

theorem Collaborators.alike_ofCloud {R : ω → ω' → Prop} {left : Cloud ω} {right : Cloud ω'}
    (h : Cloud.Alike R left right) : Collaborators.Alike R (.ofCloud left) (.ofCloud right) where
  network network subnet region project := by
    refine .bind ?_ fun _ => .pure _
    rw [NetworkChoice.choose, NetworkChoice.choose]
    split
    · exact .pure _
    · split
      · exact .pure _
      · refine .bind (.ask (h (.subnetwork _ _ _) nofun) _) fun _ => ?_
        exact .bind (.tell _) fun _ => .pure _
  series project zone := by
    refine .bind (.ask (h (.machineTypes _ _) nofun) _) fun _ => ?_
    exact .bind (.tell _) fun _ => .pure _

namespace Resolution

variable {R : ω → ω' → Prop} {left : Cloud ω} {right : Cloud ω'}

theorem alike_project (h : Cloud.Alike R left right) (r : Resolution) :
    Alike R (project left r) (project right r) := by
  rw [project, project]
  split
  · exact .pure r
  · apply Session.Alike.bind (.attempt (h .metadataProject nofun))
    intro answer
    cases answer with
    | error => exact .throw _
    | ok found =>
        dsimp only
        split
        · exact .throw _
        · exact .bind (.tell _) fun _ => .pure _

theorem alike_bucketRegionFor (h : Cloud.Alike R left right) (zone : String) :
    Alike R (bucketRegionFor left zone) (bucketRegionFor right zone) := by
  rw [bucketRegionFor, bucketRegionFor]
  split
  · exact .lift _
  · apply Session.Alike.bind (.attempt (h .metadataZone nofun))
    intro answer
    cases answer with
    | error => exact .pure _
    | ok answer =>
        dsimp only
        split
        · exact .pure _
        · exact .lift _

theorem alike_scratchPath (h : Cloud.Alike R left right) (r : Resolution) :
    Alike R (scratchPath left r) (scratchPath right r) := by
  rw [scratchPath, scratchPath]
  split
  · refine .bind (.bind (.lift _) fun path => ?_) fun _ => .pure _
    exact .bind (.ask (h (.bucketLocation path.1) nofun) _) fun _ => .pure _
  · apply Session.Alike.bind (alike_bucketRegionFor h _)
    intro region
    refine .bind (.ask (h (.createBucket _ _ _) nofun) _) fun _ => ?_
    exact .bind (.tell _) fun _ => .pure _

theorem alike_zone (h : Cloud.Alike R left right) (r : Resolution) :
    Alike R (zone left r) (zone right r) := by
  rw [zone, zone]
  split
  · exact .pure r
  · refine .bind ?_ fun _ => .pure _
    apply Session.Alike.bind (.ask (h (.zones _) nofun) _)
    intro zones
    split
    · exact .throw _
    · exact .bind (.tell _) fun _ => .pure _

theorem alike_network {lookups : Collaborators ω} {lookups' : Collaborators ω'}
    (h : lookups.Alike R lookups') (r : Resolution) :
    Alike R (network lookups r) (network lookups' r) :=
  .bind (h.network _ _ _ _) fun _ => .pure _

theorem alike_series {lookups : Collaborators ω} {lookups' : Collaborators ω'}
    (h : lookups.Alike R lookups') (r : Resolution) :
    Alike R (series lookups r) (series lookups' r) := by
  rw [series, series]
  split
  · exact .pure r
  · exact .bind (h.series _ _) fun _ => .pure _

/-- The steps of a resolution have the same outcomes against clouds that answer alike. -/
theorem alike_steps (h : Cloud.Alike R left right) {lookups : Collaborators ω}
    {lookups' : Collaborators ω'} (hlookups : lookups.Alike R lookups') :
    List.Forall₂ (fun step step' => ∀ r, Alike R (step r) (step' r))
      (steps left lookups) (steps right lookups') := by
  refine .cons (alike_project h) <| .cons (alike_scratchPath h) <| .cons (fun _ => .pure _) <|
    .cons (alike_zone h) <| .cons (fun _ => ?_) <| .cons (alike_network hlookups) <|
    .cons (alike_series hlookups) .nil
  exact .bind (.lift _) fun _ => .pure _

/-- Steps that have the same outcomes one by one have the same outcome together. -/
theorem value_take_eq {steps : List (ResolutionStep ω)} {steps' : List (ResolutionStep ω')}
    (h : List.Forall₂ (fun step step' => ∀ r, Alike R (step r) (step' r)) steps steps')
    (r : Resolution) {world : ω} {world' : ω'} (hworlds : R world world') :
    ((take steps r).run world).value.1 = ((take steps' r).run world').value.1 := by
  induction h generalizing r world world' with
  | nil => rfl
  | @cons step step' steps steps' hstep hsteps ih =>
      obtain ⟨hresult, hbetween⟩ := hstep r world world' hworlds
      have hleft : ((step r).run.run world).value = (step r).outcome world := rfl
      have hright : ((step' r).run.run world').value = (step' r).outcome world' := rfl
      rw [take, take, StateT.run_bind, StateT.run_bind, Logged.value_bind, Logged.value_bind,
        hleft, hright, ← hresult]
      rcases hrun : (step r).outcome world with ⟨failure | next, between⟩
      · rfl
      · rw [hrun] at hbetween
        exact ih next hbetween

/-- Against clouds that answer alike, a resolution ends in the same way and with the same
parameters. -/
theorem resolve_eq_of_alike (h : Cloud.Alike R left right) {lookups : Collaborators ω}
    {lookups' : Collaborators ω'} (hlookups : lookups.Alike R lookups') (q : Parameters)
    {world : ω} {world' : ω'} (hworlds : R world world') :
    (q.resolve left lookups world).result = (q.resolve right lookups' world').result ∧
      (q.resolve left lookups world).params = (q.resolve right lookups' world').params := by
  have htaken := value_take_eq (alike_steps h hlookups) { params := q } hworlds
  exact ⟨congrArg Prod.snd htaken, congrArg (·.1.params) htaken⟩

end Resolution

/-! ## Classified answers -/

/-- Answers are classified faithfully, by every single request of the clients of the compute and
storage services.  Only the creation of a bucket takes a conflict for a success, and so it makes no
difference to a resolution whether the bucket that it has created was there before. -/
theorem answers_are_classified :
    (∀ {ω : Type} (transport : Transport ω) (client : ComputeClient) (world : ω),
      ComputeClient.Classifies transport client world) ∧
    (∀ {ω : Type} (transport : Transport ω) (client : StorageClient) (world : ω),
      StorageClient.Classifies transport client world) ∧
    (∀ {ω ω' : Type} {R : ω → ω' → Prop} {left : Transport ω} {right : Transport ω'},
      left.AlikeButCreation R right → ∀ (metadata : MetadataClient) (storage : StorageClient)
        (compute : ComputeClient) (budget : Nat) (q : Parameters) {world : ω} {world' : ω'},
      R world world' →
        let cloud := Cloud.ofClients left metadata storage compute budget
        let cloud' := Cloud.ofClients right metadata storage compute budget
        let resolved := q.resolve cloud (.ofCloud cloud) world
        let resolved' := q.resolve cloud' (.ofCloud cloud') world'
        resolved.result = resolved'.result ∧ resolved.params = resolved'.params) := by
  refine ⟨ComputeClient.classifies, StorageClient.classifies, ?_⟩
  intro ω ω' R left right halike metadata storage compute budget q world world' hworlds
  have hclouds := Cloud.alike_ofClients halike metadata storage compute budget
  exact Resolution.resolve_eq_of_alike hclouds (Collaborators.alike_ofCloud hclouds) q hworlds

/-- A service that has nothing and answers the creation of a bucket in one way. -/
def creating (creation : HttpResponse) : Transport Unit := fun request _ =>
  match request.method with
  | .get => (some ⟨404, ""⟩, ())
  | .post => (some creation, ())

theorem alikeButCreation_creating {creation creation' : HttpResponse}
    (h : creation.LeavesBucket) (h' : creation'.LeavesBucket) :
    (creating creation).AlikeButCreation Eq (creating creation') where
  looked_up hget _ := by simp [creating, hget]
  created hpost _ := by simp [creating, hpost, h, h']

/-- The cloud behind such a service. -/
def creatingCloud (creation : HttpResponse) : Cloud Unit :=
  .ofClients (creating creation) ⟨"http://metadata.test"⟩
    ⟨⟨.storage, "http://storage.test", none⟩⟩ ComputeClient.pagedClient 1

/-- Parameters that leave only the scratch path blank. -/
def blankScratch : Parameters :=
  { project := "p", zone := "us-west1-b", network := "default", workerMachineSeries := ["n2"] }

/-- An answer that describes an error with a message. -/
def deniedAnswer : HttpResponse :=
  ⟨403, "\x7b\"error\":\x7b\"code\":403,\"message\":\"denied\"\x7d\x7d"⟩

/-- An answer that describes an error without a message. -/
def silentAnswer : HttpResponse :=
  ⟨404, "\x7b\"error\":\x7b\x7d\x7d"⟩

theorem textDescribesError_deniedAnswer : TextDescribesError deniedAnswer.body "denied" :=
  HttpResponse.decodeEnvelope_eq_ok_iff.mp (by decide +kernel)

theorem textDescribesError_silentAnswer : TextDescribesError silentAnswer.body "" :=
  HttpResponse.decodeEnvelope_eq_ok_iff.mp (by decide +kernel)

/-- A bucket that is made and one that is in the way lead to the same resolution.  A refusal is told
by the message of the error that it describes, which is empty where it is left out. -/
theorem answers_are_classified_conflict :
    let made := creatingCloud ⟨200, "\x7b\x7d"⟩
    let found := creatingCloud ⟨409, "bucket exists"⟩
    let resolved := blankScratch.resolve made (.ofCloud made) ()
    let resolved' := blankScratch.resolve found (.ofCloud found) ()
    let asked (answer : HttpResponse) := ((ComputeClient.pagedClient.image
      ComputeClient.replying.recorded "p" "i").outcome ([answer], [])).1
    (resolved.result = resolved'.result ∧ resolved.params = resolved'.params) ∧
      resolved'.result.isOk = true ∧
      resolved'.params.scratchPath = "gs://p-wfrunner-scratch-us-west1/" ∧
      asked deniedAnswer = .error (.api 403 "denied") ∧
      asked silentAnswer = .error (.api 404 "") := by
  intro made found resolved resolved' asked
  have hmade : HttpResponse.LeavesBucket ⟨200, "\x7b\x7d"⟩ := by
    refine .inr ⟨by decide, ?_⟩
    exact ⟨.object [], by cbv⟩
  have hfound : HttpResponse.LeavesBucket ⟨409, "bucket exists"⟩ := .inl rfl
  obtain ⟨request, hrequest⟩ : ∃ request, ComputeClient.pagedClient.api.request .get
      ("projects/" ++ "p" ++ "/global/images/" ++ "i") [] none = .ok request := by
    have hok : (ComputeClient.pagedClient.api.request .get
        ("projects/" ++ "p" ++ "/global/images/" ++ "i") [] none).isOk = true := by
      decide +kernel
    cases hsent : ComputeClient.pagedClient.api.request .get
        ("projects/" ++ "p" ++ "/global/images/" ++ "i") [] none with
    | ok request => exact ⟨request, rfl⟩
    | error failure =>
        rw [hsent] at hok
        cases hok
  have hasked (answer : HttpResponse) :
      Classified StoredDisk.decode id answer (asked answer) := by
    obtain ⟨result, houtcome, hclassified⟩ := ((answers_are_classified.1 ComputeClient.replying
      ComputeClient.pagedClient [answer]).image "p" "i").answered hrequest rfl
    have hresult : asked answer = result := congrArg Prod.fst houtcome
    rwa [hresult]
  refine ⟨?_, by decide +kernel, by decide +kernel, ?_, ?_⟩
  · exact answers_are_classified.2.2 (alikeButCreation_creating hmade hfound) _ _ _ _ blankScratch
      rfl
  · exact (hasked deniedAnswer).eq_error_of_described (by decide) (by decide)
      textDescribesError_deniedAnswer
  · exact (hasked silentAnswer).eq_error_of_described (by decide) (by decide)
      textDescribesError_silentAnswer

end ImageFlow
