import KeyCustody.ServiceDouble

set_option autoImplicit false

namespace KeyCustody

theorem bind_ok_iff {ε α β : Type} (first : Except ε α) (next : α → Except ε β) (result : β) :
    (first >>= next) = .ok result ↔ ∃ value, first = .ok value ∧ next value = .ok result := by
  cases first <;> simp [bind, Except.bind]

theorem bind_error_iff {ε α β : Type} (first : Except ε α) (next : α → Except ε β) (failure : ε) :
    (first >>= next) = .error failure ↔
      first = .error failure ∨ ∃ value, first = .ok value ∧ next value = .error failure := by
  cases first <;> simp [bind, Except.bind]

theorem map_ok_iff {ε α β : Type} (first : Except ε α) (f : α → β) (result : β) :
    first.map f = .ok result ↔ ∃ value, first = .ok value ∧ result = f value := by
  cases first <;> simp [Except.map, eq_comm]

theorem exists_unit_iff (holds : Unit → Prop) : (∃ nothing, holds nothing) ↔ holds () :=
  ⟨fun ⟨_, held⟩ => held, fun held => ⟨(), held⟩⟩

def Checksum.Contradicts (payload : Option Bytes) (supplied : Option Checksum) : Prop :=
  ∃ octets declared, payload = some octets ∧ supplied = some declared ∧ of octets ≠ declared

theorem Checksum.verify_contradicted (payload : Option Bytes) (supplied : Option Checksum)
    (field : Field) (contradicts : Contradicts payload supplied) :
    ∃ mismatch, verify payload supplied field = .error mismatch := by
  obtain ⟨octets, declared, rfl, rfl, different⟩ := contradicts
  exact ⟨_, if_neg different⟩

namespace Wire.Request

def Contradicted {verb : Verb} (request : Wire.Request verb) : Prop :=
  Checksum.Contradicts request.payload request.payloadChecksum ∨
    Checksum.Contradicts request.associatedData request.associatedDataChecksum

end Wire.Request

namespace ServiceDouble

theorem input_verified_contradicted (strict : Bool) (payload : Option Bytes)
    (supplied : Option Checksum) (field : Field)
    (contradicts : Checksum.Contradicts payload supplied) :
    inputVerified strict payload supplied field ≠ .ok true := by
  obtain ⟨mismatch, refused⟩ := Checksum.verify_contradicted payload supplied field contradicts
  cases strict <;> simp [inputVerified, refused]

theorem guard_input_refuses {payload : Option Bytes} {supplied : Option Checksum} (field : Field)
    {octets : Bytes} {declared : Checksum} (present : payload = some octets)
    (given : supplied = some declared) (different : .of octets ≠ declared) :
    guardInput payload supplied field = .error (.checksum ⟨field, some declared, .of octets⟩) := by
  subst present given
  simp only [guardInput, Checksum.verify, if_neg different]

theorem guard_input_ok_iff (payload : Option Bytes) (supplied : Option Checksum) (field : Field) :
    guardInput payload supplied field = .ok () ↔ ¬Checksum.Contradicts payload supplied := by
  constructor
  · intro passed contradicts
    obtain ⟨octets, declared, present, given, different⟩ := contradicts
    rw [guard_input_refuses field present given different] at passed
    cases passed
  · intro agrees
    match payload, supplied with
    | none, _ => rfl
    | some _, none => rfl
    | some octets, some declared =>
        have same : .of octets = declared := by
          by_cases same : .of octets = declared
          · exact same
          · exact absurd ⟨octets, declared, rfl, rfl, same⟩ agrees
        simp only [guardInput, Checksum.verify, if_pos same]

theorem encrypt_ok_iff (double : ServiceDouble) (nonce : Nonce) (name : String)
    (request : Wire.Request .encrypt) (response : Wire.EncryptResponse) :
    double.encrypt nonce name request = .ok response ↔
      ∃ key, double.key name = .ok key ∧
      ∃ verifiedPlaintext,
        inputVerified double.strict request.payload request.payloadChecksum .plaintext =
          .ok verifiedPlaintext ∧
      ∃ verifiedAssociatedData,
        inputVerified double.strict request.associatedData request.associatedDataChecksum
          .associatedData = .ok verifiedAssociatedData ∧
      ∃ ciphertext,
        lock key nonce (request.associatedData.getD []) (request.payload.getD []) =
          .ok ciphertext ∧
        response = ⟨some name, some ciphertext, some (.of ciphertext), onlySet verifiedPlaintext,
          onlySet verifiedAssociatedData, some protectionLevel⟩ := by
  simp only [encrypt, bind_ok_iff, pure, Except.pure, Except.ok.injEq, eq_comm (b := response)]

theorem replied_silent_iff (plaintext : Bytes) :
    (replied plaintext).plaintext = none ↔ plaintext = [] := by
  by_cases empty : plaintext = [] <;> simp [replied, empty]

theorem replied_octets (plaintext : Bytes) : (replied plaintext).plaintext.getD [] = plaintext := by
  by_cases empty : plaintext = [] <;> simp [replied, empty]

theorem guarded_ok_iff (double : ServiceDouble) (name : String) (request : Wire.Request .decrypt)
    (opening : Opening) :
    double.guarded name request = .ok opening ↔
      ∃ secret, double.key name = .ok secret ∧
        guardInput request.payload request.payloadChecksum .ciphertext = .ok () ∧
        guardInput request.associatedData request.associatedDataChecksum .associatedData = .ok () ∧
        opening = ⟨secret, request.associatedData.getD [], request.payload.getD []⟩ := by
  simp only [guarded, bind_ok_iff, exists_unit_iff, pure, Except.pure, Except.ok.injEq,
    eq_comm (b := opening)]

theorem decrypt_eq (double : ServiceDouble) (name : String) (request : Wire.Request .decrypt) :
    double.decrypt name request = double.guarded name request >>= fun opening =>
      (unlock opening.secret opening.associatedData opening.ciphertext).map replied := by
  unfold decrypt decryption
  cases double.guarded name request with
  | error failure => rfl
  | ok opening => rfl

theorem decrypt_ok_iff (double : ServiceDouble) (name : String) (request : Wire.Request .decrypt)
    (response : Wire.DecryptResponse) :
    double.decrypt name request = .ok response ↔
      ∃ secret, double.key name = .ok secret ∧
        guardInput request.payload request.payloadChecksum .ciphertext = .ok () ∧
        guardInput request.associatedData request.associatedDataChecksum .associatedData = .ok () ∧
      ∃ plaintext,
        unlock secret (request.associatedData.getD []) (request.payload.getD []) = .ok plaintext ∧
        response = replied plaintext := by
  simp only [decrypt_eq, bind_ok_iff, guarded_ok_iff, map_ok_iff]
  constructor
  · rintro ⟨_, ⟨secret, known, payload, associatedData, rfl⟩, opened⟩
    exact ⟨secret, known, payload, associatedData, opened⟩
  · rintro ⟨secret, known, payload, associatedData, opened⟩
    exact ⟨_, ⟨secret, known, payload, associatedData, rfl⟩, opened⟩

theorem mem_key_ids_iff (double : ServiceDouble) (name : String) :
    name ∈ double.keyIds ↔ ∃ secret, double.key? name = some secret := by
  unfold keyIds key?
  constructor
  · intro listed
    obtain ⟨entry, member, named⟩ := List.mem_map.mp listed
    have found : (double.keys.find? (·.1 = name)).isSome :=
      List.find?_isSome.mpr ⟨entry, member, decide_eq_true named⟩
    obtain ⟨first, first_eq⟩ := Option.isSome_iff_exists.mp found
    exact ⟨first.2, congrArg (Option.map Prod.snd) first_eq⟩
  · intro known
    obtain ⟨secret, found⟩ := known
    obtain ⟨entry, entry_eq, -⟩ := Option.map_eq_some_iff.mp found
    have named : entry.1 = name := by simpa using List.find?_some entry_eq
    exact List.mem_map.mpr ⟨entry, List.mem_of_find?_eq_some entry_eq, named⟩

theorem key_ok_iff (double : ServiceDouble) (name : String) (secret : SecretKey) :
    double.key name = .ok secret ↔ double.key? name = some secret := by
  unfold key
  cases double.key? name <;> simp

theorem key_error_iff (double : ServiceDouble) (name : String) (failure : ServiceFailure) :
    double.key name = .error failure ↔
      name ∉ double.keyIds ∧ failure = .unknownKey name double.keyIds := by
  rw [mem_key_ids_iff, key]
  cases double.key? name <;> simp [eq_comm]

inductive Fails (double : ServiceDouble) (name : String) : ServiceFailure → Prop where
  | unknownKey (unlisted : name ∉ double.keyIds) :
      Fails double name (.unknownKey name double.keyIds)
  | checksum (mismatch : Checksum.Mismatch) : Fails double name (.checksum mismatch)
  | cipher (text : String) : Fails double name (.cipher text)

section

variable {double : ServiceDouble} {name : String} {failure : ServiceFailure}

theorem key_fails (refused : double.key name = .error failure) : double.Fails name failure := by
  obtain ⟨unlisted, rfl⟩ := (double.key_error_iff name failure).mp refused
  exact .unknownKey unlisted

theorem input_verified_fails {strict : Bool} {payload : Option Bytes} {supplied : Option Checksum}
    {field : Field} (refused : inputVerified strict payload supplied field = .error failure) :
    double.Fails name failure := by
  unfold inputVerified at refused
  split at refused
  · cases refused
  · cases refused
  · split at refused
    · cases refused
      exact .checksum _
    · cases refused

theorem guard_input_fails {payload : Option Bytes} {supplied : Option Checksum} {field : Field}
    (refused : guardInput payload supplied field = .error failure) : double.Fails name failure := by
  unfold guardInput at refused
  split at refused
  · cases refused
  · cases refused
    exact .checksum _

theorem lock_fails {secret : SecretKey} {nonce : Nonce} {associatedData plaintext : Bytes}
    (refused : lock secret nonce associatedData plaintext = .error failure) :
    double.Fails name failure := by
  unfold lock at refused
  split at refused
  · cases refused
  · cases refused
    exact .cipher _

theorem unlock_fails {secret : SecretKey} {associatedData ciphertext : Bytes}
    (refused : unlock secret associatedData ciphertext = .error failure) :
    double.Fails name failure := by
  unfold unlock at refused
  split at refused
  · cases refused
    exact .cipher _
  · dsimp only at refused
    split at refused
    · cases refused
    · cases refused
      exact .cipher _

theorem guarded_fails {request : Wire.Request .decrypt}
    (refused : double.guarded name request = .error failure) : double.Fails name failure := by
  simp only [guarded, bind_error_iff, pure, Except.pure, reduceCtorEq, and_false, exists_false,
    or_false] at refused
  obtain unknown | ⟨_, -, ciphertext | ⟨_, -, associatedData⟩⟩ := refused
  · exact key_fails unknown
  · exact guard_input_fails ciphertext
  · exact guard_input_fails associatedData

theorem execute_fails {nonce : Nonce} {query : Rest.Query}
    (refused : double.execute nonce query = .error failure) : double.Fails query.name failure := by
  obtain ⟨verb, name, request⟩ := query
  cases verb with
  | encrypt =>
      simp only [execute, encrypt, bind_error_iff, pure, Except.pure, reduceCtorEq, and_false,
        exists_false, or_false] at refused
      obtain unknown | ⟨_, -, plaintext | ⟨_, -, associatedData | ⟨_, -, sealing⟩⟩⟩ := refused
      · exact key_fails unknown
      · exact input_verified_fails plaintext
      · exact input_verified_fails associatedData
      · exact lock_fails sealing
  | decrypt =>
      rw [execute, decrypt_eq, bind_error_iff] at refused
      obtain guarding | ⟨opening, -, opened⟩ := refused
      · exact guarded_fails guarding
      · cases unlocked : unlock opening.secret opening.associatedData opening.ciphertext with
        | ok plaintext =>
            rw [unlocked] at opened
            cases opened
        | error cause =>
            rw [unlocked] at opened
            cases opened
            exact unlock_fails unlocked

end

theorem answer_ok_iff (double : ServiceDouble) (nonce : Nonce) (query : Rest.Query)
    (response : Wire.Response query.verb) :
    double.answer nonce query = .ok response ↔
      prepare query.name = .ok () ∧ double.execute nonce query = .ok response := by
  unfold answer
  cases prepare query.name <;> simp

theorem only_set_iff (flag : Bool) : onlySet flag = some true ↔ flag = true := by
  cases flag <;> simp [onlySet]

theorem encrypt_declares (double : ServiceDouble) (nonce : Nonce) (name : String)
    (request : Wire.Request .encrypt) (response : Wire.EncryptResponse)
    (answered : double.encrypt nonce name request = .ok response) :
    ∃ ciphertext, response.ciphertext = some ciphertext ∧
      response.ciphertextChecksum = some (.of ciphertext) := by
  obtain ⟨_, -, _, -, _, -, ciphertext, -, rfl⟩ := (encrypt_ok_iff _ _ _ _ _).mp answered
  exact ⟨ciphertext, rfl, rfl⟩

theorem decrypt_declares (double : ServiceDouble) (name : String)
    (request : Wire.Request .decrypt) (response : Wire.DecryptResponse)
    (answered : double.decrypt name request = .ok response) :
    response.plaintextChecksum = some (.of (response.plaintext.getD [])) := by
  obtain ⟨_, -, -, -, plaintext, -, rfl⟩ := (decrypt_ok_iff _ _ _ _).mp answered
  rw [replied_octets]
  rfl

theorem encrypt_contradicted (double : ServiceDouble) (nonce : Nonce) (name : String)
    (request : Wire.Request .encrypt) (response : Wire.EncryptResponse)
    (contradicted : request.Contradicted)
    (answered : double.encrypt nonce name request = .ok response) :
    ¬(response.verifiedPlaintext = some true ∧ response.verifiedAssociatedData = some true) := by
  obtain ⟨_, -, verifiedPlaintext, plaintext, verifiedAssociatedData, associatedData, _, -, rfl⟩ :=
    (encrypt_ok_iff _ _ _ _ _).mp answered
  rintro ⟨plaintextSet, associatedDataSet⟩
  rw [(only_set_iff _).mp plaintextSet] at plaintext
  rw [(only_set_iff _).mp associatedDataSet] at associatedData
  cases contradicted with
  | inl payload => exact input_verified_contradicted _ _ _ _ payload plaintext
  | inr data => exact input_verified_contradicted _ _ _ _ data associatedData

theorem decrypt_contradicted (double : ServiceDouble) (name : String)
    (request : Wire.Request .decrypt) (contradicted : request.Contradicted)
    (response : Wire.DecryptResponse) : double.decrypt name request ≠ .ok response := by
  intro answered
  obtain ⟨_, -, payload, associatedData, -⟩ := (decrypt_ok_iff _ _ _ _).mp answered
  cases contradicted with
  | inl other => exact (guard_input_ok_iff _ _ _).mp payload other
  | inr other => exact (guard_input_ok_iff _ _ _).mp associatedData other

end ServiceDouble
end KeyCustody
