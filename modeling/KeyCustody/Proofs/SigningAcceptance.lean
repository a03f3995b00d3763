import KeyCustody.SigningKey
import KeyCustody.Proofs.Acceptance

set_option autoImplicit false

namespace KeyCustody

def KeyName.sampleVersion : KeyName .version :=
  ⟨"projects/p/locations/l/keyRings/r/cryptoKeys/k/cryptoKeyVersions/1", by decide +kernel⟩

namespace Rpc

def SignRequest.carried (request : SignRequest) : Field :=
  if request.digest.isSome then .digest else .data

namespace SignResponse

inductive ConfirmsOnly (response : SignResponse) : Field → Prop where
  | data (sent : response.verifiedData = true) (other : response.verifiedDigest = false) :
      ConfirmsOnly response .data
  | digest (sent : response.verifiedDigest = true) (other : response.verifiedData = false) :
      ConfirmsOnly response .digest

structure Vouches (response : SignResponse) (version : String) (sent : Field) (signature : Bytes) :
    Prop where
  name : response.name = version
  confirmed : response.ConfirmsOnly sent
  octets : response.signature = signature
  checksum : response.signatureChecksum = some (.of signature)

inductive Doubted (response : SignResponse) (version : String) (sent : Field) : Failure → Prop where
  | otherKey (name : response.name ≠ version) :
      Doubted response version sent (.otherKey version response.name)
  | notVerified (name : response.name = version) (confirmed : ¬response.ConfirmsOnly sent) :
      Doubted response version sent (.notVerified sent)
  | checksum (name : response.name = version) (confirmed : response.ConfirmsOnly sent)
      (declared : response.signatureChecksum ≠ some (.of response.signature)) :
      Doubted response version sent (.checksum ⟨.signature, response.signatureChecksum,
        .of response.signature⟩)

theorem vouched_or_doubted (response : SignResponse) (version : String) (sent : Field) :
    response.Vouches version sent response.signature ∨
      ∃ failure, response.Doubted version sent failure := by
  by_cases name : response.name = version
  · by_cases confirmed : response.ConfirmsOnly sent
    · by_cases declared : response.signatureChecksum = some (.of response.signature)
      · exact .inl ⟨name, confirmed, rfl, declared⟩
      · exact .inr ⟨_, .checksum name confirmed declared⟩
    · exact .inr ⟨_, .notVerified name confirmed⟩
  · exact .inr ⟨_, .otherKey name⟩

end SignResponse
end Rpc

namespace SigningKey

open Rpc

theorem sent_data_or_digest (key : SigningKey) : key.sent = .data ∨ key.sent = .digest := by
  unfold sent
  split
  · exact .inl rfl
  · exact .inr rfl

theorem verified_sent_iff (response : SignResponse) {field : Field}
    (sent : field = .data ∨ field = .digest) :
    verifiedSent field response = true ↔ response.ConfirmsOnly field := by
  rcases sent with rfl | rfl
  · simp only [verifiedSent, if_true, Bool.and_eq_true, Bool.not_eq_true']
    constructor
    · rintro ⟨data, digest⟩
      exact .data data digest
    · rintro ⟨data, digest⟩
      exact ⟨data, digest⟩
  · simp only [verifiedSent, reduceCtorEq, if_false, Bool.and_eq_true, Bool.not_eq_true']
    constructor
    · rintro ⟨digest, data⟩
      exact .digest digest data
    · rintro ⟨⟩
      exact ⟨‹_›, ‹_›⟩

theorem carried_by_request {key : SigningKey} {data : Bytes} {request : SignRequest}
    (prepared : key.request data = .ok request) : request.carried = key.sent := by
  unfold SigningKey.request at prepared
  split at prepared
  · cases prepared
  split at prepared
  · rename_i needs
    cases prepared
    simp [sent, needs, SignRequest.carried, dataRequest]
  · rename_i needs
    cases digested : key.publicKey.algorithm.digest data with
    | error failure => simp [digested, Except.map] at prepared
    | ok digest =>
        rw [digested] at prepared
        cases prepared
        simp [sent, needs, SignRequest.carried, digestRequest]

theorem accept_vouched {key : SigningKey} {response : SignResponse} {signature : Bytes}
    (vouches : response.Vouches key.name.text key.sent signature) :
    key.accept response = .ok signature := by
  obtain ⟨name, confirmed, rfl, checksum⟩ := vouches
  have flags := (verified_sent_iff response key.sent_data_or_digest).mpr confirmed
  simp [accept, name, flags, Checksum.expect, checksum]

theorem accept_doubted {key : SigningKey} {response : SignResponse} {failure : Failure}
    (doubted : response.Doubted key.name.text key.sent failure) :
    key.accept response = .error failure := by
  have flags := verified_sent_iff response key.sent_data_or_digest
  unfold accept
  cases doubted with
  | otherKey name => exact if_pos name
  | notVerified name confirmed =>
      have unset := eq_false_of_ne_true (mt flags.mp confirmed)
      simp [name, unset]
  | checksum name confirmed declared =>
      have set := flags.mpr confirmed
      simp [name, set, Checksum.expect, declared]

theorem accept_ok_iff (key : SigningKey) (response : SignResponse) (signature : Bytes) :
    key.accept response = .ok signature ↔ response.Vouches key.name.text key.sent signature := by
  refine ⟨fun accepted => ?_, accept_vouched⟩
  rcases response.vouched_or_doubted key.name.text key.sent with vouches | ⟨failure, doubted⟩
  · rw [accept_vouched vouches] at accepted
    cases accepted
    exact vouches
  · rw [accept_doubted doubted] at accepted
    cases accepted

theorem accept_error_iff (key : SigningKey) (response : SignResponse) (failure : Failure) :
    key.accept response = .error failure ↔ response.Doubted key.name.text key.sent failure := by
  refine ⟨fun refused => ?_, accept_doubted⟩
  rcases response.vouched_or_doubted key.name.text key.sent with vouches | ⟨first, doubted⟩
  · rw [accept_vouched vouches] at refused
    cases refused
  · rw [accept_doubted doubted] at refused
    cases refused
    exact doubted

section

variable {σ : Type}

theorem accepted_public_key {name : KeyName .version} {answer : Except ServiceFailure PublicKey}
    {key : SigningKey} (accepted : acceptPublicKey name answer = .ok key) :
    key.name = name ∧ answer = .ok key.publicKey := by
  cases answer with
  | error cause => cases accepted
  | ok publicKey =>
      simp only [acceptPublicKey] at accepted
      split at accepted
      · cases accepted
      · cases accepted
        exact ⟨rfl, rfl⟩

section

variable (service : FarSide surface σ) (start : σ)

theorem hold_unfit {name : Option String} {refused : KeyName.Refused}
    (unfit : KeyName.Unfit .version name refused) (client : Bool) :
    (build name client).hold service start = ⟨[], .error (.keyName refused), start⟩ := by
  simp only [build, KeyName.parse_unfit unfit, Dialogue.hold]

theorem hold_build (version : KeyName .version) (client : Bool) :
    (build (some version.text) client).hold service start =
      if client then
        let answered := service (.publicKey version.text) start
        ⟨[.publicKey version.text], acceptPublicKey version answered.1, answered.2⟩
      else ⟨[], .error (.configuration .noRpcClient), start⟩ := by
  have parsed := (KeyName.parse_ok_iff _ version).mpr rfl
  cases client with
  | false => simp only [build, parsed, Bool.false_eq_true, if_false, Dialogue.hold]
  | true => simp only [build, parsed, if_true, Dialogue.hold]

end

theorem built_key {service : FarSide surface σ} {start : σ} {version : String} {key : SigningKey}
    (built : ((build (some version) true).hold service start).result = .ok key) :
    version = key.name.text ∧ (service (.publicKey version) start).1 = .ok key.publicKey := by
  obtain ⟨name, named⟩ | ⟨refused, unfit⟩ := KeyName.fit_or_unfit .version (some version)
  · obtain rfl := Option.some.inj named
    rw [hold_build, if_pos rfl] at built
    obtain ⟨rfl, answered⟩ := accepted_public_key built
    exact ⟨rfl, answered⟩
  · rw [hold_unfit service start unfit] at built
    cases built

theorem hold_sign (key : SigningKey) (data : Bytes) (far : FarSide surface σ) (state : σ) :
    (key.sign data).hold far state =
      match key.request data with
      | .error failure => ⟨[], .error failure, state⟩
      | .ok request =>
          let answered := far (.sign request) state
          ⟨[.sign request], key.conclude answered.1, answered.2⟩ := by
  unfold sign
  cases key.request data <;> rfl

end

theorem result_of_signing {σ τ : Type} (service : FarSide surface σ) (start : σ) (version : String)
    (key : SigningKey) (built : ((build (some version) true).hold service start).result = .ok key)
    (far : FarSide surface τ) (state : τ) (data : Bytes) (request : SignRequest)
    (sends : ((key.sign data).hold far state).asked = [.sign request]) :
    let answer := (far (.sign request) state).1
    let result := ((key.sign data).hold far state).result
    (∀ signature, result = .ok signature ↔
      ∃ response, answer = .ok response ∧ response.Vouches version request.carried signature) ∧
    (∀ failure, result = .error failure ↔
      (∃ cause, answer = .error cause ∧ .remote .asymmetricSign cause = failure) ∨
      ∃ response, answer = .ok response ∧ response.Doubted version request.carried failure) := by
  intro answer result
  have prepared : key.request data = .ok request := by
    rw [hold_sign] at sends
    split at sends
    · cases sends
    · cases sends
      assumption
  have concluded : result = key.conclude answer := by
    simp only [result, hold_sign, prepared]
    rfl
  rw [(built_key built).1, carried_by_request prepared, concluded]
  cases answer with
  | error cause => simp [conclude]
  | ok response => simp [conclude, accept_ok_iff, accept_error_iff]

def samplePublicKey (algorithm : Algorithm) : PublicKey where
  name := KeyName.sampleVersion.text
  pem := ""
  pemChecksum := none
  algorithm := algorithm
  protectionLevel := .hsm

def sampleKey (algorithm : Algorithm) : SigningKey :=
  ⟨.sampleVersion, samplePublicKey algorithm⟩

def sampleService (algorithm : Algorithm) : FarSide surface Unit
  | .publicKey _, _ => (.ok (samplePublicKey algorithm), ())
  | .sign request, _ => (.ok {
      name := request.name
      signature := [1, 2, 3]
      signatureChecksum := some (.of [1, 2, 3])
      verifiedDigest := request.digest.isSome
      verifiedData := request.digest.isNone
      protectionLevel := .hsm }, ())
  | .call verb call, _ => (unserved (.call verb call), ())

theorem built_over_sample_service (algorithm : Algorithm) :
    ((build (some KeyName.sampleVersion.text) true).hold (sampleService algorithm) ()).result =
      .ok (sampleKey algorithm) := by
  rw [hold_build]
  rfl

theorem sample_signature_handed_on :
    let version := KeyName.sampleVersion.text
    let held (algorithm : Algorithm) :=
      ((sampleKey algorithm).sign [7]).hold (sampleService algorithm) ()
    let digested := (sampleKey .ecSignP256Sha256).digestRequest
      ⟨.sha256, HashFunction.digest .sha256 [7]⟩
    (∀ algorithm, ((build (some version) true).hold (sampleService algorithm) ()).result =
      .ok (sampleKey algorithm)) ∧
    (held .ecSignEd25519).asked = [.sign ((sampleKey .ecSignEd25519).dataRequest [7])] ∧
    (held .ecSignEd25519).result = .ok [1, 2, 3] ∧
    (held .ecSignP256Sha256).asked = [.sign digested] ∧
    (held .ecSignP256Sha256).result = .ok [1, 2, 3] := by
  intro version held digested
  have data : (held .ecSignEd25519).asked = [.sign ((sampleKey .ecSignEd25519).dataRequest [7])] := rfl
  have digest : (held .ecSignP256Sha256).asked = [.sign digested] := rfl
  have signedData := (result_of_signing (sampleService .ecSignEd25519) () version _
    (built_over_sample_service _) (sampleService .ecSignEd25519) () [7] _ data).1 [1, 2, 3]
  have signedDigest := (result_of_signing (sampleService .ecSignP256Sha256) () version _
    (built_over_sample_service _) (sampleService .ecSignP256Sha256) () [7] _ digest).1 [1, 2, 3]
  refine ⟨built_over_sample_service, data, signedData.mpr ⟨_, rfl, ?_⟩, digest,
    signedDigest.mpr ⟨_, rfl, ?_⟩⟩
  · exact { name := rfl, confirmed := .data rfl rfl, octets := rfl, checksum := rfl }
  · exact { name := rfl, confirmed := .digest rfl rfl, octets := rfl, checksum := rfl }

end SigningKey
end KeyCustody
