import KeyCustody.Proofs.HttpRequests

set_option autoImplicit false

namespace KeyCustody

namespace Http

variable {σ : Type}

inductive Delivers (verb : Verb) : Outcome → Wire.Response verb → Prop where
  | intro {status : Nat} {body : Bytes} {text : String} {response : Wire.Response verb}
      (success : 200 ≤ status ∧ status < 300)
      (reads : Wire.Message.ofDocument? body = some response) :
      Delivers verb (.answered status body text) response

inductive Undelivered (verb : Verb) (endpoint : String) : Outcome → ServiceFailure → Prop where
  | noAnswer : Undelivered verb endpoint .noAnswer (.noAnswer endpoint)
  | status {status : Nat} {body : Bytes} {text : String} (failed : ¬(200 ≤ status ∧ status < 300)) :
      Undelivered verb endpoint (.answered status body text) (.status endpoint status text)
  | malformed {status : Nat} {body : Bytes} {text : String} (success : 200 ≤ status ∧ status < 300)
      (unread : Wire.Message.ofDocument? (M := Wire.Response verb) body = none) :
      Undelivered verb endpoint (.answered status body text)
        (.malformedReply (endpoint ++ ": error decoding response body"))

namespace Client

theorem is_success_iff (status : Nat) : isSuccess status = true ↔ 200 ≤ status ∧ status < 300 := by
  simp [isSuccess]

theorem interpret_ok_iff (verb : Verb) (endpoint : String) (outcome : Outcome)
    (response : Wire.Response verb) :
    interpret verb endpoint outcome = .ok response ↔ Delivers verb outcome response := by
  constructor
  · intro read
    cases outcome with
    | noAnswer => cases read
    | answered status body text =>
        by_cases success : isSuccess status = true
        · simp only [interpret, success, if_true] at read
          split at read
          · rename_i reads
            cases read
            exact .intro ((is_success_iff status).mp success) reads
          · cases read
        · simp [interpret, success] at read
  · rintro ⟨success, reads⟩
    simp only [interpret, (is_success_iff _).mpr success, if_true, reads]

theorem interpret_error_iff (verb : Verb) (endpoint : String) (outcome : Outcome)
    (cause : ServiceFailure) :
    interpret verb endpoint outcome = .error cause ↔ Undelivered verb endpoint outcome cause := by
  constructor
  · intro failed
    cases outcome with
    | noAnswer =>
        cases failed
        exact .noAnswer
    | answered status body text =>
        by_cases success : isSuccess status = true
        · simp only [interpret, success, if_true] at failed
          split at failed
          · cases failed
          · rename_i unread
            cases failed
            exact .malformed ((is_success_iff status).mp success) unread
        · simp only [interpret, if_neg success] at failed
          cases failed
          exact .status fun within => success ((is_success_iff status).mpr within)
  · rintro (_ | ⟨failed⟩ | ⟨success, unread⟩)
    · rfl
    · simp only [interpret, if_neg (mt (is_success_iff _).mp failed)]
    · simp only [interpret, (is_success_iff _).mpr success, if_true, unread]

def exchange (client : Client) (far : FarSide surface σ) (state : σ) (query : Rest.Query) : Outcome :=
  match client.request? query with
  | none => .noAnswer
  | some request => (far request state).1

theorem hold_queries (client : Client) (far : FarSide surface σ) (state : σ) (verb : Verb)
    (name : String) (request : Wire.Request verb) :
    ((client.queries ⟨verb, name, request⟩).hold far state).result =
      interpret verb (client.endpoint name verb)
        (client.exchange far state ⟨verb, name, request⟩) := by
  unfold queries exchange
  cases client.request? ⟨verb, name, request⟩ with
  | none => rfl
  | some request => rfl

def settle (client : Client) (far : FarSide surface σ) (state : σ)
    (dialogue : Dialogue callSurface (Except Failure Bytes)) : Except Failure Bytes :=
  (((dialogue.via Link.rest.calls).via client.queries).hold far state).result

theorem settle_perform (client : Client) (far : FarSide surface σ) (state : σ)
    (key : EncryptionKey) (verb : Verb) (payload associatedData : Bytes) :
    client.settle far state (key.perform verb payload associatedData) =
      key.conclude verb ((interpret verb (client.endpoint key.name.text verb)
        (client.exchange far state
          ⟨verb, key.name.text, Rest.request (key.call verb payload associatedData)⟩)).map
            (Rest.reply verb)) := by
  simp only [settle, EncryptionKey.perform, Link.calls, Rest.calls, Dialogue.via, Dialogue.bind,
    Dialogue.hold_bind, Dialogue.hold]
  rw [hold_queries]
  rfl

theorem settle_ok_iff (client : Client) (far : FarSide surface σ) (state : σ)
    (key : EncryptionKey) (verb : Verb) (payload associatedData octets : Bytes) :
    client.settle far state (key.perform verb payload associatedData) = .ok octets ↔
      ∃ response, Delivers verb (client.exchange far state
          ⟨verb, key.name.text, Rest.request (key.call verb payload associatedData)⟩) response ∧
        key.accept verb (Rest.reply verb response) = .ok octets := by
  rw [settle_perform]
  simp only [← interpret_ok_iff verb (client.endpoint key.name.text verb)]
  cases interpret verb (client.endpoint key.name.text verb) _ with
  | error cause => simp [Except.map, EncryptionKey.conclude]
  | ok response => simp [Except.map, EncryptionKey.conclude]

theorem settle_error_iff (client : Client) (far : FarSide surface σ) (state : σ)
    (key : EncryptionKey) (verb : Verb) (payload associatedData : Bytes) (failure : Failure) :
    client.settle far state (key.perform verb payload associatedData) = .error failure ↔
      (∃ cause, Undelivered verb (client.endpoint key.name.text verb) (client.exchange far state
          ⟨verb, key.name.text, Rest.request (key.call verb payload associatedData)⟩) cause ∧
        .remote verb.operation cause = failure) ∨
      ∃ response, Delivers verb (client.exchange far state
          ⟨verb, key.name.text, Rest.request (key.call verb payload associatedData)⟩) response ∧
        key.accept verb (Rest.reply verb response) = .error failure := by
  rw [settle_perform]
  simp only [← interpret_ok_iff verb (client.endpoint key.name.text verb), ← interpret_error_iff]
  cases interpret verb (client.endpoint key.name.text verb) _ with
  | error cause => simp [Except.map, EncryptionKey.conclude]
  | ok response => simp [Except.map, EncryptionKey.conclude]

end Client

/-- How an exchange for a call ends: as the far side answers the post when HTTP serves the endpoint, and
without an answer when it does not. -/
structure Exchanged (client : Client) (name : String) (use : EncryptionKey.Use)
    (far : FarSide surface σ) (state : σ) (outcome : Outcome) : Prop where
  served {url : Url} (parsed : Url.parse? (client.endpoint name use.verb) = some url)
    (http : url.isHttp = true) :
    ∃ request, client.request? (restQuery name use) = some request ∧
      Posts (client.endpoint name use.verb) use request ∧ outcome = (far request state).1
  unserved (none : ∀ url, Url.parse? (client.endpoint name use.verb) = some url → url.isHttp = false) :
    outcome = .noAnswer

theorem exchange_exchanged (client : Client) (name : String) (use : EncryptionKey.Use)
    (far : FarSide surface σ) (state : σ) :
    Exchanged client name use far state (client.exchange far state (restQuery name use)) where
  served parsed http := by
    obtain ⟨request, posted⟩ := Option.isSome_iff_exists.mp
      ((client.request_some_iff (restQuery name use)).mpr ⟨_, parsed, http⟩)
    refine ⟨request, posted, client.posts_of_request posted, ?_⟩
    rw [Client.exchange, posted]
  unserved none := by
    have refused : client.request? (restQuery name use) = .none := by
      rw [← Option.not_isSome_iff_eq_none, client.request_some_iff]
      rintro ⟨url, parsed, http⟩
      rw [none url parsed] at http
      cases http
    rw [Client.exchange, refused]

-- Every outcome of the exchange is one of those delivered or undelivered, and every response
-- delivered is vouched for or doubted, so the four equivalences leave no result open.
theorem result_over_http (client : Client) (name : KeyName .key) (far : FarSide surface σ) (state : σ)
    (payload associatedData : Bytes) :
    let key : EncryptionKey := ⟨name, .rest⟩
    let encrypted := client.settle far state (key.encrypt payload associatedData)
    let decrypted := client.settle far state (key.decrypt payload associatedData)
    EncryptionKey.build (some name.text) true false = .ok key ∧
    ∃ outcome : Verb → Outcome,
    (∀ verb, Exchanged client name.text ⟨verb, payload, associatedData⟩ far state (outcome verb)) ∧
    (∀ ciphertext, encrypted = .ok ciphertext ↔
      ∃ response, Delivers .encrypt (outcome .encrypt) response ∧
        Rest.Vouches name.text response ciphertext) ∧
    (∀ failure, encrypted = .error failure ↔
      (∃ cause, Undelivered .encrypt (client.endpoint name.text .encrypt) (outcome .encrypt) cause ∧
        .remote .encryption cause = failure) ∨
      ∃ response, Delivers .encrypt (outcome .encrypt) response ∧
        Rest.Doubted name.text response failure) ∧
    (∀ plaintext, decrypted = .ok plaintext ↔
      ∃ response : Wire.DecryptResponse, Delivers .decrypt (outcome .decrypt) response ∧
        response.plaintextChecksum = some (.of plaintext) ∧
        response.plaintext.getD [] = plaintext) ∧
    (∀ failure, decrypted = .error failure ↔
      (∃ cause, Undelivered .decrypt (client.endpoint name.text .decrypt) (outcome .decrypt) cause ∧
        .remote .decryption cause = failure) ∨
      ∃ response : Wire.DecryptResponse, Delivers .decrypt (outcome .decrypt) response ∧
        response.plaintextChecksum ≠ some (.of (response.plaintext.getD [])) ∧
        .checksum ⟨.plaintext, response.plaintextChecksum, .of (response.plaintext.getD [])⟩ =
          failure) := by
  intro key encrypted decrypted
  refine ⟨EncryptionKey.build_over name rfl, fun verb => client.exchange far state
    (restQuery name.text ⟨verb, payload, associatedData⟩), ?_, ?_, ?_, ?_, ?_⟩
  · exact fun verb => exchange_exchanged client name.text ⟨verb, payload, associatedData⟩ far state
  · intro ciphertext
    refine (client.settle_ok_iff far state key .encrypt payload associatedData ciphertext).trans ?_
    exact exists_congr fun response => and_congr_right fun _ => Rest.vouches_iff key response ciphertext
  · intro failure
    refine (client.settle_error_iff far state key .encrypt payload associatedData failure).trans ?_
    exact or_congr_right (exists_congr fun response => and_congr_right fun _ =>
      Rest.doubted_iff key response failure)
  · intro plaintext
    refine (client.settle_ok_iff far state key .decrypt payload associatedData plaintext).trans ?_
    refine exists_congr fun response => and_congr_right fun _ => ?_
    refine (EncryptionKey.accept_decrypted_ok_iff _ _).trans ?_
    constructor
    · rintro ⟨checksum, rfl⟩
      exact ⟨checksum, rfl⟩
    · rintro ⟨checksum, rfl⟩
      exact ⟨checksum, rfl⟩
  · intro failure
    refine (client.settle_error_iff far state key .decrypt payload associatedData failure).trans ?_
    exact or_congr_right (exists_congr fun response => and_congr_right fun _ =>
      EncryptionKey.expect_received_error_iff _ _ _ _)

def sampleClient : Client := ⟨sampleConfig.baseUrl, sampleConfig.token⟩

theorem sample_served (verb : Verb) :
    ∃ url, Url.parse? (sampleClient.endpoint KeyName.sample.text verb) = some url ∧
      url.isHttp = true := by
  apply (Option.any_eq_true _ _).mp
  cases verb with
  | encrypt => decide +kernel
  | decrypt => decide +kernel

def answering (status : Nat) (body : Bytes) : FarSide surface Unit := fun _ state =>
  (.answered status body "", state)

def sealedResponse : Wire.EncryptResponse where
  name := some (KeyName.sample.text ++ "/cryptoKeyVersions/7")
  ciphertext := some [1, 2, 3]
  ciphertextChecksum := some (.of [1, 2, 3])
  verifiedPlaintext := some true
  verifiedAssociatedData := some true
  protectionLevel := none

theorem vouched_response_over_http :
    let key : EncryptionKey := ⟨.sample, .rest⟩
    let endpoint := sampleClient.endpoint key.name.text
    let body := Wire.Message.document sealedResponse
    let opened : Wire.DecryptResponse := ⟨none, some (.of []), none, none⟩
    sampleClient.settle (answering 201 body) () (key.encrypt [9] []) = .ok [1, 2, 3] ∧
      sampleClient.settle (answering 300 body) () (key.encrypt [9] []) =
        .error (.remote .encryption (.status (endpoint .encrypt) 300 "")) ∧
      sampleClient.settle (answering 200 (Wire.Message.document opened)) ()
        (key.decrypt [1, 2, 3] []) = .ok [] := by
  intro key endpoint body opened
  have success : 200 ≤ 201 ∧ 201 < 300 := by decide
  have reads : Wire.Message.ofDocument? body = some sealedResponse :=
    Wire.Message.of_document_document sealedResponse
  have vouches : Rest.Vouches key.name.text sealedResponse [1, 2, 3] := {
    name := ⟨_, rfl, by decide +kernel⟩
    plaintext := rfl
    associatedData := rfl
    octets := rfl
    checksum := rfl }
  have outcome {status : Nat} {body : Bytes} {use : EncryptionKey.Use} {outcome : Outcome}
      (exchanged : Exchanged sampleClient key.name.text use (answering status body) () outcome) :
      outcome = .answered status body "" := by
    obtain ⟨url, parsed, http⟩ := sample_served use.verb
    obtain ⟨request, -, -, same⟩ := exchanged.served parsed http
    exact same
  refine ⟨?_, ?_, ?_⟩
  · obtain ⟨-, _, exchanged, encrypted, -⟩ :=
      result_over_http sampleClient .sample (answering 201 body) () [9] []
    refine (encrypted [1, 2, 3]).mpr ⟨sealedResponse, ?_, vouches⟩
    rw [outcome (exchanged .encrypt)]
    exact .intro success reads
  · obtain ⟨-, _, exchanged, -, refused, -⟩ :=
      result_over_http sampleClient .sample (answering 300 body) () [9] []
    refine (refused _).mpr (.inl ⟨_, ?_, rfl⟩)
    rw [outcome (exchanged .encrypt)]
    exact .status (by decide)
  · obtain ⟨-, _, exchanged, -, -, decrypted, -⟩ := result_over_http sampleClient .sample
      (answering 200 (Wire.Message.document opened)) () [1, 2, 3] []
    refine (decrypted []).mpr ⟨opened, ?_, rfl, rfl⟩
    rw [outcome (exchanged .decrypt)]
    exact .intro (by decide) (Wire.Message.of_document_document opened)

end Http
end KeyCustody
