import KeyCustody.Proofs.Acceptance
import KeyCustody.Proofs.WireRoundTrip

set_option autoImplicit false

namespace KeyCustody

namespace Rest

-- A field that has its default may be left out.
def Shows {α : Type} (default value : α) (field : Option α) : Prop :=
  field = some value ∨ field = none ∧ value = default

theorem Shows.getD_eq {α : Type} {default value : α} {field : Option α}
    (shows_value : Shows default value field) : field.getD default = value := by
  rcases shows_value with rfl | ⟨rfl, rfl⟩
  · rfl
  · rfl

structure EncryptRendering (answer : Rpc.EncryptResponse) (shown : Wire.EncryptResponse) : Prop where
  name : Shows "" answer.name shown.name
  ciphertext : Shows [] answer.ciphertext shown.ciphertext
  ciphertextChecksum : shown.ciphertextChecksum = answer.ciphertextChecksum
  verifiedPlaintext : Shows false answer.verifiedPlaintext shown.verifiedPlaintext
  verifiedAssociatedData : Shows false answer.verifiedAssociatedData shown.verifiedAssociatedData

structure DecryptRendering (answer : Rpc.DecryptResponse) (shown : Wire.DecryptResponse) : Prop where
  plaintext : Shows [] answer.plaintext shown.plaintext
  plaintextChecksum : shown.plaintextChecksum = answer.plaintextChecksum

def Rendering : (verb : Verb) → Rpc.Response verb → Wire.Response verb → Prop
  | .encrypt => EncryptRendering
  | .decrypt => DecryptRendering

def reread {verb : Verb} (response : Wire.Response verb) :
    Except ServiceFailure (Wire.Response verb) :=
  match Wire.Message.ofDocument? (Wire.Message.document response) with
  | some read => .ok read
  | none => .error (.malformedReply "error decoding response body")

inductive Rendered (verb : Verb) :
    Except ServiceFailure (Rpc.Response verb) → Except ServiceFailure (Wire.Response verb) → Prop where
  | failure (cause : ServiceFailure) : Rendered verb (.error cause) (.error cause)
  | handedOver {answer : Rpc.Response verb} {shown : Wire.Response verb}
      (rendering : Rendering verb answer shown) : Rendered verb (.ok answer) (.ok shown)
  | asDocument {answer : Rpc.Response verb} {shown : Wire.Response verb}
      (rendering : Rendering verb answer shown) : Rendered verb (.ok answer) (reread shown)

theorem reread_eq {verb : Verb} (response : Wire.Response verb) : reread response = .ok response := by
  rw [reread, Wire.Message.response_of_document]

theorem reply_of_rendering {verb : Verb} {answer : Rpc.Response verb} {shown : Wire.Response verb}
    (rendering : Rendering verb answer shown) : reply verb shown = Rpc.reply verb answer := by
  cases verb with
  | encrypt =>
      obtain ⟨name, ciphertext, checksum, plaintext, associatedData⟩ := rendering
      simp only [reply, encryptReply, Rpc.reply, name.getD_eq, ciphertext.getD_eq, checksum,
        plaintext.getD_eq, associatedData.getD_eq]
  | decrypt =>
      obtain ⟨plaintext, checksum⟩ := rendering
      simp only [reply, decryptReply, Rpc.reply, plaintext.getD_eq, checksum]

theorem reply_of_rendered {verb : Verb} {answer : Except ServiceFailure (Rpc.Response verb)}
    {shown : Except ServiceFailure (Wire.Response verb)} (rendered : Rendered verb answer shown) :
    shown.map (reply verb) = answer.map (Rpc.reply verb) := by
  cases rendered with
  | failure cause => rfl
  | handedOver rendering => exact congrArg Except.ok (reply_of_rendering rendering)
  | asDocument rendering =>
      rw [reread_eq]
      exact congrArg Except.ok (reply_of_rendering rendering)

end Rest

structure SameCall {verb : Verb} (name : String) (request : Wire.Request verb) (call : Call verb) :
    Prop where
  name : name = call.name
  payload : request.payload = some call.payload
  payloadChecksum : request.payloadChecksum = call.payloadChecksum
  associatedData : request.associatedData = some call.associatedData
  associatedDataChecksum : request.associatedDataChecksum = call.associatedDataChecksum

inductive SameQuery : Rest.Query → Rpc.Query → Prop where
  | intro {verb : Verb} {name : String} {request : Wire.Request verb} {call : Call verb}
      (same : SameCall name request call) : SameQuery ⟨verb, name, request⟩ (.call verb call)

inductive SameQueries : List Rest.Query → List Rpc.Query → Prop where
  | nil : SameQueries [] []
  | cons {first : Rest.Query} {other : Rpc.Query} {rest : List Rest.Query} {others : List Rpc.Query}
      (same : SameQuery first other) (alike : SameQueries rest others) :
      SameQueries (first :: rest) (other :: others)

theorem same_query {verb : Verb} (call : Call verb) :
    SameQuery ⟨verb, call.name, Rest.request call⟩ (.call verb call) :=
  .intro ⟨rfl, rfl, rfl, rfl, rfl⟩

section

variable {α σ τ : Type}

structure Counterparts (rest : FarSide Rest.surface σ) (rpc : FarSide Rpc.surface τ)
    (related : σ → τ → Prop) : Prop where
  answer : ∀ s t, related s t → ∀ (verb : Verb) (call : Call verb),
    Rest.Rendered verb (rpc (.call verb call) t).1 (rest ⟨verb, call.name, Rest.request call⟩ s).1
  state : ∀ s t, related s t → ∀ (verb : Verb) (call : Call verb),
    related (rest ⟨verb, call.name, Rest.request call⟩ s).2 (rpc (.call verb call) t).2

structure HeldAlike (rest : Dialogue.Held Rest.surface α σ) (rpc : Dialogue.Held Rpc.surface α τ)
    (related : σ → τ → Prop) : Prop where
  result : rest.result = rpc.result
  asked : SameQueries rest.asked rpc.asked
  state : related rest.state rpc.state

theorem Counterparts.held_alike {rest : FarSide Rest.surface σ} {rpc : FarSide Rpc.surface τ}
    {related : σ → τ → Prop} (counterparts : Counterparts rest rpc related)
    (dialogue : Dialogue callSurface α) (s : σ) (t : τ) (start : related s t) :
    HeldAlike ((dialogue.via Rest.calls).hold rest s) ((dialogue.via Rpc.calls).hold rpc t)
      related := by
  induction dialogue generalizing s t with
  | done result => exact ⟨rfl, .nil, start⟩
  | ask query reply ih =>
      obtain ⟨verb, call⟩ := query
      -- Both answers are the same reply, so the dialogue goes on alike from related states.
      have answer := Rest.reply_of_rendered (counterparts.answer s t start verb call)
      have next := counterparts.state s t start verb call
      have alike := ih ((rpc (.call verb call) t).1.map (Rpc.reply verb)) _ _ next
      simp only [Dialogue.via, Rest.calls, Rpc.calls, Dialogue.bind, Dialogue.hold, answer]
      exact ⟨alike.result, .cons (same_query call) alike.asked, alike.state⟩

end

abbrev Answers := Nat → (verb : Verb) → Except ServiceFailure (Rpc.Response verb)

abbrev Shown := Nat → (verb : Verb) → Except ServiceFailure (Wire.Response verb)

def Answers.farSide (answers : Answers) : FarSide Rpc.surface Nat
  | .call verb _, given => (answers given verb, given + 1)
  | .sign request, given => (Rpc.unserved (.sign request), given)
  | .publicKey name, given => (Rpc.unserved (.publicKey name), given)

def Shown.farSide (shown : Shown) : FarSide Rest.surface Nat :=
  fun query given => (shown given query.verb, given + 1)

theorem counterparts_in_turn (answers : Answers) (shown : Shown)
    (rendered : ∀ turn verb, Rest.Rendered verb (answers turn verb) (shown turn verb)) :
    Counterparts shown.farSide answers.farSide Eq where
  answer := by
    rintro turn _ rfl verb call
    exact rendered turn verb
  state := by
    rintro turn _ rfl verb call
    rfl

namespace EncryptionKey

structure Use where
  verb : Verb
  payload : Bytes
  associatedData : Bytes

def performAll (key : EncryptionKey) : List Use → Dialogue callSurface (List (Except Failure Bytes))
  | [] => .done []
  | use :: uses =>
      (key.perform use.verb use.payload use.associatedData).bind fun result =>
        (key.performAll uses).bind fun results => .done (result :: results)

-- A key takes its link only when a dialogue goes across it.
theorem perform_all_link (name : KeyName .key) (link other : Link) (uses : List Use) :
    performAll ⟨name, link⟩ uses = performAll ⟨name, other⟩ uses := by
  induction uses with
  | nil => rfl
  | cons use uses ih =>
      simp only [performAll, ih]
      rfl

theorem same_over_both_links (name : KeyName .key) (uses : List Use) (answers : Answers)
    (shown : Shown)
    (rendered : ∀ turn verb, Rest.Rendered verb (answers turn verb) (shown turn verb)) :
    let rest : EncryptionKey := ⟨name, .rest⟩
    let rpc : EncryptionKey := ⟨name, .rpc⟩
    let overRest := ((rest.performAll uses).via rest.link.calls).hold shown.farSide 0
    let overRpc := ((rpc.performAll uses).via rpc.link.calls).hold answers.farSide 0
    build (some name.text) true false = .ok rest ∧ build (some name.text) false true = .ok rpc ∧
      overRest.result = overRpc.result ∧ SameQueries overRest.asked overRpc.asked := by
  intro rest rpc overRest overRpc
  have alike := (counterparts_in_turn answers shown rendered).held_alike
    (rest.performAll uses) 0 0 rfl
  have same : overRpc = ((rest.performAll uses).via Rpc.calls).hold answers.farSide 0 := by
    simp only [overRpc, rest, rpc, perform_all_link name .rpc .rest]
    rfl
  exact ⟨build_over name rfl, build_over name rfl, same ▸ alike.result, same ▸ alike.asked⟩

def sampleAnswers : Answers
  | 0, .encrypt => .ok {
      name := "projects/p/locations/l/keyRings/r/cryptoKeys/k/cryptoKeyVersions/1"
      ciphertext := [1, 2, 3]
      ciphertextChecksum := some (.of [1, 2, 3])
      verifiedPlaintext := true
      verifiedAssociatedData := true
      protectionLevel := .software }
  | 1, .encrypt => .ok {
      name := "projects/p/locations/l/keyRings/r/cryptoKeys/k"
      ciphertext := []
      ciphertextChecksum := some (.of [])
      verifiedPlaintext := true
      verifiedAssociatedData := false
      protectionLevel := .software }
  | _, .encrypt => .error (.rpc .unavailable "")
  | _, .decrypt => .ok {
      plaintext := []
      plaintextChecksum := some (.of [])
      usedPrimary := true
      protectionLevel := .hsm }

def sampleShown : Shown
  | 0, .encrypt => Rest.reread {
      name := some "projects/p/locations/l/keyRings/r/cryptoKeys/k/cryptoKeyVersions/1"
      ciphertext := some [1, 2, 3]
      ciphertextChecksum := some (.of [1, 2, 3])
      verifiedPlaintext := some true
      verifiedAssociatedData := some true
      protectionLevel := none }
  | 1, .encrypt => .ok {
      name := some "projects/p/locations/l/keyRings/r/cryptoKeys/k"
      ciphertext := none
      ciphertextChecksum := some (.of [])
      verifiedPlaintext := some true
      verifiedAssociatedData := none
      protectionLevel := some "SOFTWARE" }
  | _, .encrypt => .error (.rpc .unavailable "")
  | _, .decrypt => .ok {
      plaintext := none
      plaintextChecksum := some (.of [])
      usedPrimary := some false
      protectionLevel := some "?" }

theorem sample_rendered (turn : Nat) (verb : Verb) :
    Rest.Rendered verb (sampleAnswers turn verb) (sampleShown turn verb) := by
  cases verb with
  | encrypt =>
      match turn with
      | 0 =>
          simp only [sampleAnswers, sampleShown]
          exact .asDocument ⟨.inl rfl, .inl rfl, rfl, .inl rfl, .inl rfl⟩
      | 1 =>
          simp only [sampleAnswers, sampleShown]
          exact .handedOver ⟨.inl rfl, .inr ⟨rfl, rfl⟩, rfl, .inl rfl, .inr ⟨rfl, rfl⟩⟩
      | turn + 2 => exact .failure _
  | decrypt =>
      simp only [sampleAnswers, sampleShown]
      exact .handedOver ⟨.inr ⟨rfl, rfl⟩, rfl⟩

theorem sample_answers_same_over_both_links :
    let rest : EncryptionKey := ⟨.sample, .rest⟩
    let rpc : EncryptionKey := ⟨.sample, .rpc⟩
    let uses : List Use :=
      [⟨.encrypt, [1], [2]⟩, ⟨.encrypt, [], [2]⟩, ⟨.encrypt, [], []⟩, ⟨.decrypt, [3], []⟩]
    let overRest := ((rest.performAll uses).via rest.link.calls).hold sampleShown.farSide 0
    let overRpc := ((rpc.performAll uses).via rpc.link.calls).hold sampleAnswers.farSide 0
    (∀ turn verb, Rest.Rendered verb (sampleAnswers turn verb) (sampleShown turn verb)) ∧
      overRest.result.map Except.toOption = [some [1, 2, 3], none, none, some []] ∧
      overRest.result = overRpc.result ∧ SameQueries overRest.asked overRpc.asked := by
  intro rest rpc uses overRest overRpc
  obtain ⟨-, -, result, asked⟩ :=
    same_over_both_links .sample uses sampleAnswers sampleShown sample_rendered
  have handedOn : overRpc.result.map Except.toOption = [some [1, 2, 3], none, none, some []] := by
    decide +kernel
  have same := congrArg (List.map Except.toOption) result
  exact ⟨sample_rendered, same.trans handedOn, result, asked⟩

end EncryptionKey

end KeyCustody
