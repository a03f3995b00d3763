import KeyCustody.Proofs.StrictEncryption

set_option autoImplicit false

namespace KeyCustody

open Checksum (Contradicts)

namespace ServiceDouble

section

variable (double : ServiceDouble) (nonce : Nonce) (name : String) (request : Wire.Request .decrypt)

variable {double name request}

theorem answer_eq_held (wellFormed : KeyGrammar.path.accepts name = true) :
    double.answer nonce ⟨.decrypt, name, request⟩ =
      ((double.decryption name request).hold cipher ()).result := by
  have prepared : prepare name = .ok () := if_pos wellFormed
  simp only [answer, prepared, execute, decrypt]

theorem answer_of_same_guarded {other : Wire.Request .decrypt}
    (same : double.guarded name other = double.guarded name request) :
    double.answer nonce ⟨.decrypt, name, other⟩ = double.answer nonce ⟨.decrypt, name, request⟩ := by
  simp only [answer, execute, decrypt, decryption, same]

theorem held_refused {failure : ServiceFailure}
    (refused : double.guarded name request = .error failure) :
    (double.decryption name request).hold cipher () = ⟨[], .error failure, ()⟩ := by
  simp only [decryption, refused, Dialogue.hold]

theorem held_opening {opening : Opening} (passed : double.guarded name request = .ok opening) :
    (double.decryption name request).hold cipher () =
      let answer := unlock opening.secret opening.associatedData opening.ciphertext
      ⟨[opening], answer.map replied, ()⟩ := by
  simp only [decryption, passed, Dialogue.hold, cipher]

section

variable {secret : SecretKey} {octets : Bytes} {declared : Checksum}
  (known : double.key name = .ok secret)

include known

theorem guarded_agreeing (agrees : ¬request.Contradicted) :
    double.guarded name request =
      .ok ⟨secret, request.associatedData.getD [], request.payload.getD []⟩ := by
  have ciphertext := (guard_input_ok_iff _ _ .ciphertext).mpr (mt .inl agrees)
  have associatedData := (guard_input_ok_iff _ _ .associatedData).mpr (mt .inr agrees)
  simp only [guarded, known, ciphertext, associatedData]
  rfl

theorem guarded_ciphertext (present : request.payload = some octets)
    (given : request.payloadChecksum = some declared) (different : .of octets ≠ declared) :
    double.guarded name request = .error (.checksum ⟨.ciphertext, some declared, .of octets⟩) := by
  simp only [guarded, known, guard_input_refuses _ present given different]
  rfl

theorem guarded_associated_data
    (before : ¬Contradicts request.payload request.payloadChecksum)
    (present : request.associatedData = some octets)
    (given : request.associatedDataChecksum = some declared) (different : .of octets ≠ declared) :
    double.guarded name request =
      .error (.checksum ⟨.associatedData, some declared, .of octets⟩) := by
  have ciphertext := (guard_input_ok_iff _ _ .ciphertext).mpr before
  simp only [guarded, known, ciphertext, guard_input_refuses _ present given different]
  rfl

end

theorem guarded_without_ciphertext (absent : request.payload = none)
    (silent : request.payloadChecksum = none) :
    double.guarded name { request with payload := some [] } = double.guarded name request := by
  simp only [guarded, absent, silent]
  rfl

theorem guarded_without_associated_data (absent : request.associatedData = none)
    (silent : request.associatedDataChecksum = none) :
    double.guarded name { request with associatedData := some [] } = double.guarded name request := by
  simp only [guarded, absent, silent]
  rfl

end

theorem checksums_guard_decryption (double : ServiceDouble) (nonce : Nonce) (name : String)
    (request : Wire.Request .decrypt) (wellFormed : KeyGrammar.path.accepts name = true)
    (listed : name ∈ double.keyIds) :
    let answer (request : Wire.Request .decrypt) : Except ServiceFailure Wire.DecryptResponse :=
      double.answer nonce ⟨.decrypt, name, request⟩
    let held := (double.decryption name request).hold cipher ()
    answer request = held.result ∧
    (¬request.Contradicted →
      answer request =
        answer { request with payloadChecksum := none, associatedDataChecksum := none } ∧
      ∃ secret, double.key? name = some secret ∧
        held.asked = [⟨secret, request.associatedData.getD [], request.payload.getD []⟩]) ∧
    (∀ octets declared, request.payload = some octets → request.payloadChecksum = some declared →
      .of octets ≠ declared →
        answer request = .error (.checksum ⟨.ciphertext, some declared, .of octets⟩) ∧
        held.asked = []) ∧
    (¬Contradicts request.payload request.payloadChecksum →
      ∀ octets declared, request.associatedData = some octets →
        request.associatedDataChecksum = some declared → .of octets ≠ declared →
          answer request = .error (.checksum ⟨.associatedData, some declared, .of octets⟩) ∧
          held.asked = []) ∧
    (request.payload = none → request.payloadChecksum = none →
      answer { request with payload := some [] } = answer request) ∧
    (request.associatedData = none → request.associatedDataChecksum = none →
      answer { request with associatedData := some [] } = answer request) ∧
    ∀ response, answer request = .ok response →
      ∃ secret opened, double.key? name = some secret ∧
        unlock secret (request.associatedData.getD []) (request.payload.getD []) = .ok opened ∧
        response.plaintextChecksum = some (.of opened) ∧
        (response.plaintext = none ↔ opened = []) ∧ response.plaintext.getD [] = opened := by
  intro answer held
  obtain ⟨secret, found⟩ := (double.mem_key_ids_iff name).mp listed
  have known := (double.key_ok_iff name secret).mpr found
  have answered : answer request = held.result := answer_eq_held nonce wellFormed
  refine ⟨answered, ?_, ?_, ?_, ?_, ?_, ?_⟩
  · intro agrees
    have passed := guarded_agreeing known agrees
    refine ⟨?_, secret, found, ?_⟩
    · have silent : ¬({ request with payloadChecksum := none, associatedDataChecksum := none } :
          Wire.Request .decrypt).Contradicted := by
        simp [Wire.Request.Contradicted, Contradicts]
      exact answer_of_same_guarded nonce (passed.trans (guarded_agreeing known silent).symm)
    · simp only [held, held_opening passed]
  · intro octets declared present given different
    have refused := held_refused (guarded_ciphertext known present given different)
    rw [answered]
    simp only [held, refused, and_self]
  · intro before octets declared present given different
    have refused := held_refused (guarded_associated_data known before present given different)
    rw [answered]
    simp only [held, refused, and_self]
  · intro absent silent
    exact answer_of_same_guarded nonce (guarded_without_ciphertext absent silent)
  · intro absent silent
    exact answer_of_same_guarded nonce (guarded_without_associated_data absent silent)
  · intro response success
    obtain ⟨-, executed⟩ := (answer_ok_iff _ _ _ _).mp success
    obtain ⟨used, key, -, -, opened, unlocked, rfl⟩ := (decrypt_ok_iff _ _ _ _).mp executed
    exact ⟨used, opened, (key_ok_iff _ _ _).mp key, unlocked, rfl, replied_silent_iff opened,
      replied_octets opened⟩

theorem contradicted_ciphertext_stays_closed :
    let double := ofKeys [("", 8#128), (KeyName.sample.text, 7#128)] false
    let request : Wire.Request .decrypt := ⟨some [1], some 0, some [2], some 0⟩
    KeyGrammar.path.accepts KeyName.sample.text = true ∧ KeyName.sample.text ∈ double.keyIds ∧
    double.answer 5#96 ⟨.decrypt, KeyName.sample.text, request⟩ =
      .error (.checksum ⟨.ciphertext, some 0, .of [1]⟩) ∧
    ((double.decryption KeyName.sample.text request).hold cipher ()).asked = [] := by
  intro double request
  have wellFormed := KeyGrammar.path_accepts_of_key KeyName.sample.accepted
  obtain ⟨secret, known⟩ := known_key [("", 8#128), (KeyName.sample.text, 7#128)] false
    KeyName.sample.text (List.mem_cons_of_mem _ List.mem_cons_self)
  have listed := (double.mem_key_ids_iff _).mpr ⟨secret, (key_ok_iff _ _ _).mp known⟩
  obtain ⟨-, -, ciphertext, -⟩ :=
    checksums_guard_decryption double 5#96 KeyName.sample.text request wellFormed listed
  obtain ⟨refused, closed⟩ := ciphertext [1] 0 rfl rfl (by decide)
  exact ⟨wellFormed, listed, refused, closed⟩

end ServiceDouble
end KeyCustody
