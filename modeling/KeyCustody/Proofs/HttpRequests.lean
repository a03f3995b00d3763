import KeyCustody.Http
import KeyCustody.Proofs.Sessions

set_option autoImplicit false

namespace KeyCustody.Http

variable {σ : Type}

structure Posts (endpoint : String) (use : EncryptionKey.Use) (request : Request) : Prop where
  method : request.method = "POST"
  url : (Url.parse? endpoint).map Client.destination = some request.url
  body : Wire.Message.ofDocument? request.body = some ({
    payload := some use.payload
    payloadChecksum := some (.of use.payload)
    associatedData := some use.associatedData
    associatedDataChecksum := some (.of use.associatedData) } : Wire.Request use.verb)

namespace Client

theorem request_some_iff (client : Client) (query : Rest.Query) :
    (client.request? query).isSome ↔
      ∃ url, Url.parse? (client.endpoint query.name query.verb) = some url ∧ url.isHttp = true := by
  unfold request?
  cases Url.parse? (client.endpoint query.name query.verb) with
  | none => simp
  | some url => by_cases http : url.isHttp <;> simp [http]

theorem request_posts {client : Client} {verb : Verb} {name : String} {sent : Wire.Request verb}
    {request : Request} (posted : client.request? ⟨verb, name, sent⟩ = some request) :
    request.method = "POST" ∧
      (Url.parse? (client.endpoint name verb)).map Client.destination = some request.url ∧
      Wire.Message.ofDocument? request.body = some sent := by
  unfold request? at posted
  obtain ⟨url, parsed, served⟩ := Option.bind_eq_some_iff.mp posted
  split at served
  · cases served
    refine ⟨rfl, ?_, Wire.Message.of_document_document sent⟩
    rw [parsed, Option.map_some]
  · cases served

theorem asked_queries (client : Client) (query : Rest.Query) (far : FarSide surface σ) (state : σ) :
    ((client.queries query).hold far state).asked = (client.request? query).toList := by
  unfold queries
  cases client.request? query <;> rfl

def overHttp (client : Client) : Adapter EncryptionKey.surface surface := fun call =>
  (EncryptionKey.overRest call).via client.queries

end Client

def restQuery (name : String) (use : EncryptionKey.Use) : Rest.Query where
  verb := use.verb
  name := name
  request := {
    payload := some use.payload
    payloadChecksum := some (.of use.payload)
    associatedData := some use.associatedData
    associatedDataChecksum := some (.of use.associatedData) }

theorem Client.posts_of_request (client : Client) {name : String} {use : EncryptionKey.Use}
    {request : Request} (posted : client.request? (restQuery name use) = some request) :
    Posts (client.endpoint name use.verb) use request := by
  obtain ⟨method, url, body⟩ := request_posts posted
  exact ⟨method, url, body⟩

-- What a call posts. Nothing that was answered is among the arguments.
def posted? (config : Config) (name : String) (use : EncryptionKey.Use) : Option Request :=
  let client : Client := ⟨config.baseUrl, config.token⟩
  client.request? (restQuery name use)

theorem client_of_config {config : Config} {client : Client}
    (accepted : Client.ofConfig config = .ok client) : ⟨config.baseUrl, config.token⟩ = client := by
  unfold Client.ofConfig at accepted
  split at accepted
  · cases accepted
    rfl
  · cases accepted

section

variable {config : Config} {client : Client} (accepted : Client.ofConfig config = .ok client)

include accepted in
theorem posted_eq (name : String) (use : EncryptionKey.Use) :
    posted? config name use = client.request? (restQuery name use) := by
  rw [← client_of_config accepted, posted?]

include accepted in
theorem asked_over_http (name : KeyName .key) (use : EncryptionKey.Use) (far : FarSide surface σ)
    (state : σ) :
    ((client.overHttp (name, use)).hold far state).asked =
      (posted? config name.text use).toList := by
  simp only [Client.overHttp, EncryptionKey.overRest, EncryptionKey.across, EncryptionKey.perform,
    Link.calls, Rest.calls, Dialogue.via, Dialogue.bind, Dialogue.hold_bind, Dialogue.hold,
    List.append_nil]
  rw [Client.asked_queries, posted_eq accepted]
  rfl

end

theorem requests_over_http (config : Config) (client : Client)
    (accepted : Client.ofConfig config = .ok client) (text : String) (key : EncryptionKey)
    (built : EncryptionKey.build (some text) true false = .ok key) :
    (∀ use, (posted? config text use).isSome ↔
      ∃ url, Url.parse? (client.endpoint text use.verb) = some url ∧ url.isHttp = true) ∧
    (∀ use request, posted? config text use = some request →
      Posts (client.endpoint text use.verb) use request) ∧
    ∀ {σ α : Type} (far : FarSide surface σ) (state : σ)
      (session : Dialogue EncryptionKey.surface α),
      let turns := session.turns client.overHttp far state
      ((session.via client.overHttp).hold far state).asked = turns.flatMap Turn.asked ∧
      ∀ turn ∈ turns, turn.query.1 = key.name →
        turn.asked = (posted? config text turn.query.2).toList := by
  obtain ⟨rfl, -⟩ := EncryptionKey.built_over built
  refine ⟨?_, ?_, ?_⟩
  · intro use
    rw [posted_eq accepted]
    exact client.request_some_iff (restQuery key.name.text use)
  · intro use request posted
    rw [posted_eq accepted] at posted
    obtain ⟨method, url, body⟩ := Client.request_posts posted
    exact ⟨method, url, body⟩
  · intro σ α far state session turns
    refine ⟨session.asked_via client.overHttp far state, ?_⟩
    apply Dialogue.each_turn
    rintro ⟨name, use⟩ state named
    rw [Turn.taken_query] at named ⊢
    rw [Turn.taken_asked, ← named]
    exact asked_over_http accepted name use far state

def sampleConfig : Config where
  baseUrl := {
    scheme := "http"
    username := ""
    password := none
    host := some (.ipv6 [0, 0, 0, 0, 0, 0, 0, 1])
    port := none
    path := .segments [""]
    query := none
    fragment := none }
  token := "t"
  timeoutSeconds := 30

def failingSide : FarSide surface Nat := fun _ answered =>
  (if answered = 0 then .noAnswer else .answered 500 [] "", answered + 1)

theorem repeated_call_posts_the_same :
    let client : Client := ⟨sampleConfig.baseUrl, sampleConfig.token⟩
    let key : EncryptionKey := ⟨.sample, .rest⟩
    let use : EncryptionKey.Use := ⟨.encrypt, [], [7]⟩
    let session : Dialogue EncryptionKey.surface _ := .inTurn (key.name, use) (key.name, use)
    Client.ofConfig sampleConfig = .ok client ∧
      EncryptionKey.build (some key.name.text) true false = .ok key ∧
      ∃ request, Posts "http://[::1]/v1/projects/p/locations/l/keyRings/r/cryptoKeys/k:encrypt" use
          request ∧
        ((session.via client.overHttp).hold failingSide 0).asked = [request, request] := by
  intro client key use session
  have accepted : Client.ofConfig sampleConfig = .ok client := by
    have header : isHeaderText sampleConfig.token = true := by decide +kernel
    rw [Client.ofConfig, if_pos header]
  have built : EncryptionKey.build (some key.name.text) true false = .ok key :=
    EncryptionKey.build_over .sample rfl
  obtain ⟨served, posts, run⟩ :=
    requests_over_http sampleConfig client accepted key.name.text key built
  have endpoint : client.endpoint key.name.text use.verb =
      "http://[::1]/v1/projects/p/locations/l/keyRings/r/cryptoKeys/k:encrypt" := by
    decide +kernel
  rw [← endpoint]
  have http : ∃ url, Url.parse? (client.endpoint key.name.text use.verb) = some url ∧
      url.isHttp = true := by
    apply (Option.any_eq_true _ _).mp
    decide +kernel
  obtain ⟨request, posted⟩ := Option.isSome_iff_exists.mp ((served use).mpr http)
  obtain ⟨asked, asks⟩ := run failingSide 0 session
  refine ⟨accepted, built, request, posts use request posted, asked.trans ?_⟩
  rw [Dialogue.turns_in_turn] at asks ⊢
  simp only [List.forall_mem_cons, Turn.taken_query, true_imp_iff] at asks
  obtain ⟨first, second, -⟩ := asks
  simp only [List.flatMap_cons, List.flatMap_nil, first, second, posted]
  rfl

end KeyCustody.Http
