import KeyCustody.Proofs.Acceptance
import KeyCustody.Proofs.Crc32cBurst
import KeyCustody.Proofs.DoubleCall

set_option autoImplicit false

namespace KeyCustody

structure Channel where
  outward (verb : Verb) : Wire.Request verb → Wire.Request verb
  homeward (verb : Verb) : Wire.Response verb → Wire.Response verb

inductive RequestFault {verb : Verb} (sent : Wire.Request verb) : Wire.Request verb → Prop where
  | payload {octets received : Bytes} (present : sent.payload = some octets)
      (burst : Burst octets received) : RequestFault sent { sent with payload := some received }
  | payloadChecksum {declared received : Checksum} (present : sent.payloadChecksum = some declared)
      (different : received ≠ declared) :
      RequestFault sent { sent with payloadChecksum := some received }
  | associatedData {octets received : Bytes} (present : sent.associatedData = some octets)
      (burst : Burst octets received) :
      RequestFault sent { sent with associatedData := some received }
  | associatedDataChecksum {declared received : Checksum}
      (present : sent.associatedDataChecksum = some declared) (different : received ≠ declared) :
      RequestFault sent { sent with associatedDataChecksum := some received }

inductive EncryptResponseFault (sent : Wire.EncryptResponse) : Wire.EncryptResponse → Prop where
  | ciphertext {octets received : Bytes} (present : sent.ciphertext = some octets)
      (burst : Burst octets received) :
      EncryptResponseFault sent { sent with ciphertext := some received }
  | checksum {declared received : Checksum} (present : sent.ciphertextChecksum = some declared)
      (different : received ≠ declared) :
      EncryptResponseFault sent { sent with ciphertextChecksum := some received }

inductive DecryptResponseFault (sent : Wire.DecryptResponse) : Wire.DecryptResponse → Prop where
  | plaintext {octets received : Bytes} (present : sent.plaintext = some octets)
      (burst : Burst octets received) :
      DecryptResponseFault sent { sent with plaintext := some received }
  | checksum {declared received : Checksum} (present : sent.plaintextChecksum = some declared)
      (different : received ≠ declared) :
      DecryptResponseFault sent { sent with plaintextChecksum := some received }

def ResponseFault : (verb : Verb) → Wire.Response verb → Wire.Response verb → Prop
  | .encrypt => EncryptResponseFault
  | .decrypt => DecryptResponseFault

namespace Channel

variable {σ : Type}

def between (channel : Channel) (far : FarSide Rest.surface σ) : FarSide Rest.surface σ :=
  fun ⟨verb, name, request⟩ state =>
    let answered := far ⟨verb, name, channel.outward verb request⟩ state
    (answered.1.map (channel.homeward verb), answered.2)

inductive OneFault (channel : Channel) {verb : Verb} (sent : Wire.Request verb)
    (answer : Except ServiceFailure (Wire.Response verb)) : Prop where
  | outward (fault : RequestFault sent (channel.outward verb sent))
      (faithful : ∀ response, answer = .ok response → channel.homeward verb response = response)
  | homeward (faithful : channel.outward verb sent = sent)
      (fault : ∀ response, answer = .ok response →
        ResponseFault verb response (channel.homeward verb response))

end Channel

theorem request_fault_contradicted {verb : Verb} (key : EncryptionKey)
    (payload associatedData : Bytes) (received : Wire.Request verb)
    (fault : RequestFault (Rest.request (key.call verb payload associatedData)) received) :
    received.Contradicted := by
  cases fault with
  | payload present burst =>
      cases present
      exact .inl ⟨_, _, rfl, rfl, Checksum.burst_detected _ _ burst⟩
  | payloadChecksum present different =>
      cases present
      exact .inl ⟨_, _, rfl, rfl, different.symm⟩
  | associatedData present burst =>
      cases present
      exact .inr ⟨_, _, rfl, rfl, Checksum.burst_detected _ _ burst⟩
  | associatedDataChecksum present different =>
      cases present
      exact .inr ⟨_, _, rfl, rfl, different.symm⟩

theorem hold_between (channel : Channel) (double : ServiceDouble) (draw : Nat → Nonce)
    (drawn : Nat) (key : EncryptionKey) (verb : Verb) (payload associatedData : Bytes) :
    (((key.perform verb payload associatedData).via Link.rest.calls).hold
        (channel.between (double.farSide draw)) drawn).result =
      key.conclude verb (((double.answer (draw drawn) ⟨verb, key.name.text,
        channel.outward verb (Rest.request (key.call verb payload associatedData))⟩).map
          (channel.homeward verb)).map (Rest.reply verb)) :=
  rfl

theorem damaged_request_refused (double : ServiceDouble) (nonce : Nonce) (key : EncryptionKey)
    (verb : Verb) (request : Wire.Request verb) (response : Wire.Response verb)
    (contradicted : request.Contradicted)
    (executed : double.execute nonce ⟨verb, key.name.text, request⟩ = .ok response)
    (octets : Bytes) : key.accept verb (Rest.reply verb response) ≠ .ok octets := by
  intro accepted
  cases verb with
  | encrypt =>
      -- A double that is not strict answers, but leaves what was damaged unconfirmed.
      have vouches := (Rest.vouches_iff key response octets).mp accepted
      exact double.encrypt_contradicted nonce key.name.text request response contradicted executed
        ⟨vouches.plaintext, vouches.associatedData⟩
  | decrypt => exact double.decrypt_contradicted key.name.text request contradicted response executed

theorem damaged_encrypt_response_refused (key : EncryptionKey)
    (response received : Wire.EncryptResponse) (ciphertext : Bytes)
    (sent : response.ciphertext = some ciphertext)
    (declared : response.ciphertextChecksum = some (.of ciphertext))
    (fault : EncryptResponseFault response received) (octets : Bytes) :
    key.acceptEncrypted (Rest.encryptReply received) ≠ .ok octets := by
  intro accepted
  obtain ⟨-, -, -, same, checksum⟩ := (Rest.vouches_iff key received octets).mp accepted
  cases fault with
  | ciphertext present burst =>
      cases sent.symm.trans present
      cases same
      exact Checksum.burst_detected _ _ burst (Option.some.inj (checksum.symm.trans declared))
  | checksum present different =>
      simp only [sent, Option.getD_some] at same
      cases same
      cases declared.symm.trans present
      exact different (Option.some.inj checksum)

theorem damaged_decrypt_response_refused (response received : Wire.DecryptResponse)
    (declared : response.plaintextChecksum = some (.of (response.plaintext.getD [])))
    (fault : DecryptResponseFault response received) (octets : Bytes) :
    EncryptionKey.acceptDecrypted (Rest.decryptReply received) ≠ .ok octets := by
  intro accepted
  have checksum : received.plaintextChecksum = some (.of (received.plaintext.getD [])) :=
    ((EncryptionKey.accept_decrypted_ok_iff _ _).mp accepted).1
  cases fault with
  | plaintext present burst =>
      rw [present] at declared
      exact Checksum.burst_detected _ _ burst (Option.some.inj (checksum.symm.trans declared))
  | checksum present different =>
      cases declared.symm.trans present
      exact different (Option.some.inj checksum)

theorem damaged_response_refused (double : ServiceDouble) (nonce : Nonce) (key : EncryptionKey)
    (verb : Verb) (request : Wire.Request verb) (response received : Wire.Response verb)
    (executed : double.execute nonce ⟨verb, key.name.text, request⟩ = .ok response)
    (fault : ResponseFault verb response received) (octets : Bytes) :
    key.accept verb (Rest.reply verb received) ≠ .ok octets := by
  cases verb with
  | encrypt =>
      obtain ⟨ciphertext, sent, declared⟩ := double.encrypt_declares nonce _ request response executed
      exact damaged_encrypt_response_refused key response received ciphertext sent declared fault octets
  | decrypt =>
      have declared := double.decrypt_declares key.name.text request response executed
      exact damaged_decrypt_response_refused response received declared fault octets

theorem one_fault_hands_on_nothing (double : ServiceDouble) (draw : Nat → Nonce) (drawn : Nat)
    (key : EncryptionKey) (verb : Verb) (payload associatedData : Bytes) (channel : Channel)
    (fault : channel.OneFault (Rest.request (key.call verb payload associatedData))
      (double.answer (draw drawn) ⟨verb, key.name.text,
        channel.outward verb (Rest.request (key.call verb payload associatedData))⟩))
    (octets : Bytes) :
    (((key.perform verb payload associatedData).via Link.rest.calls).hold
      (channel.between (double.farSide draw)) drawn).result ≠ .ok octets := by
  rw [hold_between]
  cases answered : double.answer (draw drawn) _ with
  | error cause => simp [Except.map, EncryptionKey.conclude]
  | ok response =>
      have executed := ((double.answer_ok_iff _ _ response).mp answered).2
      simp only [Except.map, EncryptionKey.conclude]
      cases fault with
      | outward fault faithful =>
          rw [faithful response answered]
          exact damaged_request_refused double _ key verb _ response
            (request_fault_contradicted key payload associatedData _ fault) executed octets
      | homeward _ fault =>
          exact damaged_response_refused double _ key verb _ response _ executed
            (fault response answered) octets

def Channel.overwriting (octets : Bytes) : Channel where
  outward _ request := { request with payload := some octets }
  homeward _ response := response

theorem overwriting_one_fault {verb : Verb} (sent : Wire.Request verb) (octets received : Bytes)
    (answer : Except ServiceFailure (Wire.Response verb)) (present : sent.payload = some octets)
    (burst : Burst octets received) : (Channel.overwriting received).OneFault sent answer :=
  .outward (.payload present burst) fun _ _ => rfl

theorem overwritten_octets_burst : Burst [1, 2, 3, 4, 5, 6, 7] [1, 2, 9, 4, 5, 8, 7] where
  different := by decide
  length := rfl
  window := by
    refine ⟨2, fun i outside => ?_⟩
    match i with
    | 0 | 1 | 6 => rfl
    | 2 | 3 | 4 | 5 => omega
    | i + 7 => rfl

theorem overwritten_plaintext_hands_on_nothing :
    let key : EncryptionKey := ⟨.sample, .rest⟩
    let double := ServiceDouble.ofKeys [(key.name.text, 7#128)] false
    let channel := Channel.overwriting [1, 2, 9, 4, 5, 8, 7]
    let sent := Rest.request (key.call .encrypt [1, 2, 3, 4, 5, 6, 7] [8])
    channel.OneFault sent
      (double.answer 3#96 ⟨.encrypt, key.name.text, channel.outward .encrypt sent⟩) ∧
    ∀ octets, (((key.perform .encrypt [1, 2, 3, 4, 5, 6, 7] [8]).via Link.rest.calls).hold
      (channel.between (double.farSide fun _ => 3#96)) 0).result ≠ .ok octets := by
  intro key double channel sent
  have fault := overwriting_one_fault sent [1, 2, 3, 4, 5, 6, 7] [1, 2, 9, 4, 5, 8, 7]
    (double.answer 3#96 ⟨.encrypt, key.name.text, channel.outward .encrypt sent⟩) rfl
    overwritten_octets_burst
  exact ⟨fault, one_fault_hands_on_nothing double (fun _ => 3#96) 0 key .encrypt
    [1, 2, 3, 4, 5, 6, 7] [8] channel fault⟩

end KeyCustody
