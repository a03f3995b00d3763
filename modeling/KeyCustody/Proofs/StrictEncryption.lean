import KeyCustody.Proofs.DoubleRoundTrip

set_option autoImplicit false

namespace KeyCustody

namespace Checksum

def Confirms (payload : Option Bytes) (supplied : Option Checksum) : Prop :=
  ∃ octets, payload = some octets ∧ supplied = some (of octets)

theorem confirms_iff (octets : Bytes) (declared : Checksum) :
    Confirms (some octets) (some declared) ↔ of octets = declared := by
  simp [Confirms, eq_comm]

instance (payload : Option Bytes) (supplied : Option Checksum) :
    Decidable (Confirms payload supplied) :=
  match payload, supplied with
  | some octets, some declared => decidable_of_iff _ (confirms_iff octets declared).symm
  | none, _ => isFalse fun ⟨_, present, _⟩ => nomatch present
  | some _, none => isFalse fun ⟨_, _, declared⟩ => nomatch declared

theorem contradicts_not_confirms {payload : Option Bytes} {supplied : Option Checksum}
    (contradicts : Contradicts payload supplied) : ¬Confirms payload supplied := by
  obtain ⟨octets, declared, rfl, rfl, different⟩ := contradicts
  exact mt (confirms_iff octets declared).mp different

inductive Verdict (payload : Option Bytes) (supplied : Option Checksum) (field : Field) :
    Except Mismatch Verification → Prop where
  | confirmed (confirms : Confirms payload supplied) : Verdict payload supplied field (.ok .verified)
  | skipped (silent : ¬Confirms payload supplied) (agrees : ¬Contradicts payload supplied) :
      Verdict payload supplied field (.ok .skipped)
  | contradicted {octets : Bytes} {declared : Checksum} (present : payload = some octets)
      (given : supplied = some declared) (different : of octets ≠ declared) :
      Verdict payload supplied field (.error ⟨field, some declared, of octets⟩)

theorem verdict (payload : Option Bytes) (supplied : Option Checksum) (field : Field) :
    Verdict payload supplied field (verify payload supplied field) := by
  match payload, supplied with
  | none, _ => exact .skipped (by simp [Confirms]) (by simp [Contradicts])
  | some _, none => exact .skipped (by simp [Confirms]) (by simp [Contradicts])
  | some octets, some declared =>
      by_cases same : of octets = declared
      · rw [verify, if_pos same]
        exact .confirmed ((confirms_iff octets declared).mpr same)
      · rw [verify, if_neg same]
        exact .contradicted rfl rfl same

end Checksum

open Checksum (Confirms Contradicts)

inductive Wire.Request.FirstContradiction (request : Wire.Request .encrypt) :
    Checksum.Mismatch → Prop where
  | plaintext {octets : Bytes} {declared : Checksum} (present : request.payload = some octets)
      (supplied : request.payloadChecksum = some declared) (different : .of octets ≠ declared) :
      FirstContradiction request ⟨.plaintext, some declared, .of octets⟩
  | associatedData {octets : Bytes} {declared : Checksum}
      (before : ¬Contradicts request.payload request.payloadChecksum)
      (present : request.associatedData = some octets)
      (supplied : request.associatedDataChecksum = some declared)
      (different : .of octets ≠ declared) :
      FirstContradiction request ⟨.associatedData, some declared, .of octets⟩

structure Wire.EncryptResponse.FlagsFor (response : Wire.EncryptResponse)
    (request : Wire.Request .encrypt) : Prop where
  plaintext : response.verifiedPlaintext =
    if Confirms request.payload request.payloadChecksum then some true else none
  associatedData : response.verifiedAssociatedData =
    if Confirms request.associatedData request.associatedDataChecksum then some true
    else none

theorem Wire.Request.first_contradiction {request : Wire.Request .encrypt}
    (contradicted : request.Contradicted) : ∃ mismatch, request.FirstContradiction mismatch := by
  by_cases before : Contradicts request.payload request.payloadChecksum
  · obtain ⟨octets, declared, present, supplied, different⟩ := before
    exact ⟨_, .plaintext present supplied different⟩
  · obtain ⟨octets, declared, present, supplied, different⟩ := contradicted.resolve_left before
    exact ⟨_, .associatedData before present supplied different⟩

namespace ServiceDouble

section

variable {strict : Bool} {payload : Option Bytes} {supplied : Option Checksum} {field : Field}

theorem input_verified_ok_iff (flag : Bool) :
    inputVerified strict payload supplied field = .ok flag ↔
      (strict = false ∨ ¬Contradicts payload supplied) ∧ flag = decide (Confirms payload supplied) := by
  have verdict := Checksum.verdict payload supplied field
  unfold inputVerified
  generalize Checksum.verify payload supplied field = answer at verdict
  cases verdict with
  | confirmed confirms =>
      have agrees : ¬Contradicts payload supplied :=
        fun contradicts => Checksum.contradicts_not_confirms contradicts confirms
      simp [confirms, agrees, eq_comm]
  | skipped silent agrees => simp [silent, agrees, eq_comm]
  | contradicted present given different =>
      have contradicts : Contradicts payload supplied := ⟨_, _, present, given, different⟩
      have silent := Checksum.contradicts_not_confirms contradicts
      cases strict <;> simp [contradicts, silent, eq_comm]

theorem input_verified_strict {octets : Bytes} {declared : Checksum} (present : payload = some octets)
    (given : supplied = some declared) (different : .of octets ≠ declared) :
    inputVerified true payload supplied field =
      .error (.checksum ⟨field, some declared, .of octets⟩) := by
  subst present given
  simp only [inputVerified, Checksum.verify, if_neg different, if_true]

end

theorem input_verified_tolerated (strict : Bool) (payload : Option Bytes)
    (supplied : Option Checksum) (field : Field)
    (tolerated : strict = false ∨ ¬Contradicts payload supplied) :
    inputVerified strict payload supplied field = .ok (decide (Confirms payload supplied)) :=
  (input_verified_ok_iff _).mpr ⟨tolerated, rfl⟩

section

variable (double : ServiceDouble) (nonce : Nonce) (name : String) {request : Wire.Request .encrypt}

theorem encrypt_agreeing (agrees : ¬request.Contradicted) :
    double.encrypt nonce name request = do
      let secret ← double.key name
      let ciphertext ←
        lock secret nonce (request.associatedData.getD []) (request.payload.getD [])
      return {
        name := some name
        ciphertext := some ciphertext
        ciphertextChecksum := some (.of ciphertext)
        verifiedPlaintext := onlySet (decide (Confirms request.payload request.payloadChecksum))
        verifiedAssociatedData :=
          onlySet (decide (Confirms request.associatedData request.associatedDataChecksum))
        protectionLevel := some protectionLevel } := by
  have plaintext := input_verified_tolerated double.strict request.payload request.payloadChecksum
    .plaintext (.inr (mt .inl agrees))
  have associatedData := input_verified_tolerated double.strict request.associatedData
    request.associatedDataChecksum .associatedData (.inr (mt .inr agrees))
  simp only [encrypt, plaintext, associatedData]
  rfl

theorem encrypt_lenient {secret : SecretKey} {ciphertext : Bytes} (lenient : double.strict = false)
    (known : double.key name = .ok secret)
    (locked : lock secret nonce (request.associatedData.getD []) (request.payload.getD []) =
      .ok ciphertext) :
    ∃ response, double.encrypt nonce name request = .ok response := by
  have plaintext := input_verified_tolerated double.strict request.payload request.payloadChecksum
    .plaintext (.inl lenient)
  have associatedData := input_verified_tolerated double.strict request.associatedData
    request.associatedDataChecksum .associatedData (.inl lenient)
  exact ⟨_, (encrypt_ok_iff _ _ _ _ _).mpr
    ⟨secret, known, _, plaintext, _, associatedData, ciphertext, locked, rfl⟩⟩

theorem encrypt_strict {secret : SecretKey} {mismatch : Checksum.Mismatch}
    (strict : double.strict = true) (known : double.key name = .ok secret)
    (first : request.FirstContradiction mismatch) :
    double.encrypt nonce name request = .error (.checksum mismatch) := by
  apply (bind_error_iff _ _ _).mpr
  refine .inr ⟨secret, known, ?_⟩
  cases first with
  | plaintext present given different =>
      rw [strict, input_verified_strict present given different]
      rfl
  | associatedData before present given different =>
      have plaintext := input_verified_tolerated true request.payload request.payloadChecksum
        .plaintext (.inr before)
      rw [strict, plaintext, input_verified_strict present given different]
      rfl

theorem only_set_decide (holds : Prop) [Decidable holds] :
    onlySet (decide holds) = if holds then some true else none := by
  by_cases set : holds <;> simp [onlySet, set]

variable {double nonce name}

theorem encrypt_flags {response : Wire.EncryptResponse}
    (answered : double.encrypt nonce name request = .ok response) : response.FlagsFor request := by
  obtain ⟨_, -, plaintextFlag, plaintext, dataFlag, associatedData, _, -, rfl⟩ :=
    (encrypt_ok_iff _ _ _ _ _).mp answered
  obtain ⟨-, rfl⟩ := (input_verified_ok_iff plaintextFlag).mp plaintext
  obtain ⟨-, rfl⟩ := (input_verified_ok_iff dataFlag).mp associatedData
  exact ⟨only_set_decide _, only_set_decide _⟩

theorem encrypt_same_ciphertext {other : ServiceDouble} (sameKey : double.key name = other.key name)
    {payloadChecksum associatedDataChecksum : Option Checksum} {response again : Wire.EncryptResponse}
    (answered : double.encrypt nonce name request = .ok response)
    (answeredAgain : other.encrypt nonce name
      { request with payloadChecksum, associatedDataChecksum } = .ok again) :
    again.ciphertext = response.ciphertext := by
  obtain ⟨secret, known, _, -, _, -, ciphertext, locked, rfl⟩ := (encrypt_ok_iff _ _ _ _ _).mp answered
  obtain ⟨secretAgain, knownAgain, _, -, _, -, ciphertextAgain, lockedAgain, rfl⟩ :=
    (encrypt_ok_iff _ _ _ _ _).mp answeredAgain
  rw [← sameKey, known] at knownAgain
  obtain rfl : secret = secretAgain := Except.ok.inj knownAgain
  obtain rfl : ciphertext = ciphertextAgain := Except.ok.inj (locked.symm.trans lockedAgain)
  rfl

end

theorem strictness_tells_contradictions (entries : List (String × SecretKey)) (nonce : Nonce)
    (name : String) (request : Wire.Request .encrypt) :
    let answer (strict : Bool) (request : Wire.Request .encrypt) :
        Except ServiceFailure Wire.EncryptResponse :=
      (ofKeys entries strict).answer nonce ⟨.encrypt, name, request⟩
    (∀ strict response, answer strict request = .ok response →
      response.FlagsFor request ∧
      ∀ other payloadChecksum associatedDataChecksum again,
        answer other { request with payloadChecksum, associatedDataChecksum } = .ok again →
          again.ciphertext = response.ciphertext) ∧
    (¬request.Contradicted → answer true request = answer false request) ∧
    (KeyGrammar.path.accepts name = true → name ∈ entries.map Prod.fst → request.Contradicted →
      (∃ mismatch, request.FirstContradiction mismatch ∧
        answer true request = .error (.checksum mismatch)) ∧
      ((request.payload.getD []).length ≤ Gcm.maxSize →
        (request.associatedData.getD []).length ≤ Gcm.maxSize →
        ∃ response, answer false request = .ok response ∧ response.FlagsFor request ∧
          (Contradicts request.payload request.payloadChecksum →
            response.verifiedPlaintext = none) ∧
          (Contradicts request.associatedData request.associatedDataChecksum →
            response.verifiedAssociatedData = none))) := by
  intro answer
  have executed {strict : Bool} {request : Wire.Request .encrypt} {response : Wire.EncryptResponse}
      (answered : answer strict request = .ok response) :
      (ofKeys entries strict).encrypt nonce name request = .ok response :=
    ((answer_ok_iff _ _ _ _).mp answered).2
  refine ⟨?_, ?_, ?_⟩
  · intro strict response answered
    refine ⟨encrypt_flags (executed answered), ?_⟩
    intro other payloadChecksum associatedDataChecksum again answeredAgain
    -- Which key a name has does not depend on strictness.
    have sameKey : (ofKeys entries strict).key name = (ofKeys entries other).key name := rfl
    exact encrypt_same_ciphertext sameKey (executed answered) (executed answeredAgain)
  · intro agrees
    have same (strict : Bool) := encrypt_agreeing (ofKeys entries strict) nonce name agrees
    simp only [answer, ServiceDouble.answer, execute, same]
    rfl
  · intro wellFormed listed contradicted
    have prepared : prepare name = .ok () := if_pos wellFormed
    obtain ⟨secret, known⟩ := known_key entries true name listed
    obtain ⟨mismatch, first⟩ := Wire.Request.first_contradiction contradicted
    have refused := encrypt_strict (ofKeys entries true) nonce name rfl known first
    refine ⟨⟨mismatch, first, ?_⟩, ?_⟩
    · simp only [answer, ServiceDouble.answer, prepared, execute, refused]
    · intro short shortData
      obtain ⟨ciphertext, locked⟩ := lock_within secret nonce short shortData
      obtain ⟨response, encrypted⟩ :=
        encrypt_lenient (ofKeys entries false) nonce name rfl known locked
      have flags := encrypt_flags encrypted
      refine ⟨response, (answer_ok_iff _ _ _ _).mpr ⟨prepared, encrypted⟩, flags, ?_, ?_⟩
      · intro contradicts
        rw [flags.plaintext, if_neg (Checksum.contradicts_not_confirms contradicts)]
      · intro contradicts
        rw [flags.associatedData, if_neg (Checksum.contradicts_not_confirms contradicts)]

theorem contradicted_plaintext_told :
    let entries : List (String × SecretKey) :=
      [(KeyName.sample.text, 7#128), ("", 8#128), (KeyName.sample.text, 9#128)]
    let request : Wire.Request .encrypt := ⟨some [1], some 0, some [2], some (.of [2])⟩
    let answer (strict : Bool) : Except ServiceFailure Wire.EncryptResponse :=
      (ofKeys entries strict).answer 5#96 ⟨.encrypt, KeyName.sample.text, request⟩
    KeyGrammar.path.accepts KeyName.sample.text = true ∧
    KeyName.sample.text ∈ entries.map Prod.fst ∧ request.Contradicted ∧
    answer true = .error (.checksum ⟨.plaintext, some 0, .of [1]⟩) ∧
    ∃ response, answer false = .ok response ∧ response.verifiedPlaintext = none ∧
      response.verifiedAssociatedData = some true := by
  intro entries request answer
  have wellFormed := KeyGrammar.path_accepts_of_key KeyName.sample.accepted
  have listed : KeyName.sample.text ∈ entries.map Prod.fst := List.mem_cons_self
  have different : Checksum.of [1] ≠ 0 := by decide
  have contradicts : Contradicts request.payload request.payloadChecksum :=
    ⟨_, _, rfl, rfl, different⟩
  have contradicted : request.Contradicted := .inl contradicts
  obtain ⟨-, -, told⟩ := strictness_tells_contradictions entries 5#96 KeyName.sample.text request
  obtain ⟨⟨mismatch, first, refused⟩, encrypts⟩ := told wellFormed listed contradicted
  obtain ⟨response, answered, flags, unset, -⟩ := encrypts (by decide) (by decide)
  refine ⟨wellFormed, listed, contradicted, ?_, response, answered, unset contradicts, ?_⟩
  · cases first with
    | plaintext present given _ =>
        cases present
        cases given
        exact refused
    | associatedData before => exact absurd contradicts before
  · rw [flags.associatedData, if_pos ⟨_, rfl, rfl⟩]

end ServiceDouble
end KeyCustody
