import KeyCustody.EncryptionKey

set_option autoImplicit false

namespace KeyCustody

def KeyName.sample : KeyName .key :=
  ⟨"projects/p/locations/l/keyRings/r/cryptoKeys/k", by decide +kernel⟩

namespace EncryptionKey

theorem expect_received_ok_iff (field : Field) (payload : Bytes) (declared : Option Checksum)
    (octets : Bytes) :
    expectReceived field payload declared = .ok octets ↔
      declared = some (.of payload) ∧ payload = octets := by
  unfold expectReceived Checksum.expect
  by_cases right : declared = some (.of payload) <;> simp [right]

theorem expect_received_error_iff (field : Field) (payload : Bytes) (declared : Option Checksum)
    (failure : Failure) :
    expectReceived field payload declared = .error failure ↔
      declared ≠ some (.of payload) ∧
        .checksum ⟨field, declared, .of payload⟩ = failure := by
  unfold expectReceived Checksum.expect
  by_cases right : declared = some (.of payload) <;> simp [right]

structure Vouches (key : EncryptionKey) (reply : EncryptReply) : Prop where
  name : withoutVersion reply.name = key.name.text
  plaintext : reply.verifiedPlaintext = true
  associatedData : reply.verifiedAssociatedData = true
  checksum : reply.ciphertextChecksum = some (.of reply.ciphertext)

theorem accept_encrypted_ok_iff (key : EncryptionKey) (reply : EncryptReply) (octets : Bytes) :
    key.acceptEncrypted reply = .ok octets ↔ key.Vouches reply ∧ reply.ciphertext = octets := by
  unfold acceptEncrypted
  constructor
  · intro accepted
    split at accepted
    · cases accepted
    split at accepted
    · cases accepted
    split at accepted
    · cases accepted
    rename_i name plaintext associatedData
    obtain ⟨checksum, same⟩ := (expect_received_ok_iff _ _ _ _).mp accepted
    exact ⟨⟨by simpa using name, by simpa using plaintext, by simpa using associatedData, checksum⟩,
      same⟩
  · rintro ⟨vouches, same⟩
    simp only [vouches.name, vouches.plaintext, vouches.associatedData, ne_eq, not_true, if_false,
      Bool.not_true, Bool.false_eq_true]
    exact (expect_received_ok_iff _ _ _ _).mpr ⟨vouches.checksum, same⟩

theorem accept_decrypted_ok_iff (reply : DecryptReply) (octets : Bytes) :
    acceptDecrypted reply = .ok octets ↔
      reply.plaintextChecksum = some (.of reply.plaintext) ∧ reply.plaintext = octets :=
  expect_received_ok_iff _ _ _ _

theorem build_unfit {name : Option String} {refused : KeyName.Refused}
    (unfit : KeyName.Unfit .key name refused) (rest rpc : Bool) :
    build name rest rpc = .error (.keyName refused) := by
  simp only [build, KeyName.parse_unfit unfit]

theorem build_named (name : KeyName .key) (rest rpc : Bool) :
    build (some name.text) rest rpc =
      match Link.only? rest rpc with
      | none => .error (.configuration .notExactlyOne)
      | some link => .ok ⟨name, link⟩ := by
  have parsed := (KeyName.parse_ok_iff _ name).mpr rfl
  cases only : Link.only? rest rpc <;> simp only [build, parsed, only, ofName, name.check_text]

theorem build_over (name : KeyName .key) {rest rpc : Bool} {link : Link}
    (only : Link.only? rest rpc = some link) :
    build (some name.text) rest rpc = .ok ⟨name, link⟩ := by
  rw [build_named, only]

theorem built_over {text : String} {rest rpc : Bool} {key : EncryptionKey}
    (built : build (some text) rest rpc = .ok key) :
    text = key.name.text ∧ Link.only? rest rpc = some key.link := by
  obtain ⟨name, named⟩ | ⟨refused, unfit⟩ := KeyName.fit_or_unfit .key (some text)
  · obtain rfl := Option.some.inj named
    rw [build_named] at built
    cases only : Link.only? rest rpc with
    | none =>
        rw [only] at built
        cases built
    | some link =>
        rw [only] at built
        cases built
        exact ⟨rfl, rfl⟩
  · rw [build_unfit unfit] at built
    cases built

end EncryptionKey

namespace Rest

structure Vouches (key : String) (response : Wire.EncryptResponse) (ciphertext : Bytes) : Prop where
  name : ∃ used, response.name = some used ∧ withoutVersion used = key
  plaintext : response.verifiedPlaintext = some true
  associatedData : response.verifiedAssociatedData = some true
  octets : response.ciphertext.getD [] = ciphertext
  checksum : response.ciphertextChecksum = some (.of ciphertext)

inductive Doubted (key : String) (response : Wire.EncryptResponse) : Failure → Prop where
  | otherKey (name : withoutVersion (response.name.getD "") ≠ key) :
      Doubted key response (.otherKey key (response.name.getD ""))
  | plaintext (name : withoutVersion (response.name.getD "") = key)
      (flag : response.verifiedPlaintext ≠ some true) :
      Doubted key response (.notVerified .plaintext)
  | associatedData (name : withoutVersion (response.name.getD "") = key)
      (plaintext : response.verifiedPlaintext = some true)
      (flag : response.verifiedAssociatedData ≠ some true) :
      Doubted key response (.notVerified .associatedData)
  | checksum (name : withoutVersion (response.name.getD "") = key)
      (plaintext : response.verifiedPlaintext = some true)
      (associatedData : response.verifiedAssociatedData = some true)
      (declared : response.ciphertextChecksum ≠ some (.of (response.ciphertext.getD []))) :
      Doubted key response (.checksum ⟨.ciphertext, response.ciphertextChecksum,
        .of (response.ciphertext.getD [])⟩)

theorem flag_set_iff (flag : Option Bool) : flag.getD false = true ↔ flag = some true := by
  cases flag <;> simp

theorem without_version_empty : withoutVersion "" = "" := by
  decide

theorem name_used_iff (name : KeyName .key) (used : Option String) :
    withoutVersion (used.getD "") = name.text ↔
      ∃ text, used = some text ∧ withoutVersion text = name.text := by
  cases used with
  | none =>
      -- An absent name is read as the empty text, which is the name of no key.
      simp [without_version_empty, Ne.symm name.text_ne_empty]
  | some text => simp

theorem vouches_iff (key : EncryptionKey) (response : Wire.EncryptResponse) (ciphertext : Bytes) :
    key.acceptEncrypted (Rest.encryptReply response) = .ok ciphertext ↔
      Vouches key.name.text response ciphertext := by
  rw [EncryptionKey.accept_encrypted_ok_iff]
  constructor
  · rintro ⟨vouches, rfl⟩
    exact {
      name := (name_used_iff key.name response.name).mp vouches.name
      plaintext := (flag_set_iff _).mp vouches.plaintext
      associatedData := (flag_set_iff _).mp vouches.associatedData
      octets := rfl
      checksum := vouches.checksum }
  · rintro ⟨name, plaintext, associatedData, rfl, checksum⟩
    exact ⟨{
      name := (name_used_iff key.name response.name).mpr name
      plaintext := (flag_set_iff _).mpr plaintext
      associatedData := (flag_set_iff _).mpr associatedData
      checksum := checksum }, rfl⟩

theorem vouched_or_doubted (name : KeyName .key) (response : Wire.EncryptResponse) :
    (∃ ciphertext, Vouches name.text response ciphertext) ∨
      ∃ failure, Doubted name.text response failure := by
  by_cases used : withoutVersion (response.name.getD "") = name.text
  · by_cases plaintext : response.verifiedPlaintext = some true
    · by_cases associatedData : response.verifiedAssociatedData = some true
      · by_cases checksum : response.ciphertextChecksum = some (.of (response.ciphertext.getD []))
        · exact .inl ⟨_, (name_used_iff name _).mp used, plaintext, associatedData, rfl, checksum⟩
        · exact .inr ⟨_, .checksum used plaintext associatedData checksum⟩
      · exact .inr ⟨_, .associatedData used plaintext associatedData⟩
    · exact .inr ⟨_, .plaintext used plaintext⟩
  · exact .inr ⟨_, .otherKey used⟩

theorem doubted_refused (key : EncryptionKey) (response : Wire.EncryptResponse) (failure : Failure)
    (doubted : Doubted key.name.text response failure) :
    key.acceptEncrypted (Rest.encryptReply response) = .error failure := by
  unfold EncryptionKey.acceptEncrypted Rest.encryptReply
  cases doubted with
  | otherKey name => exact if_pos name
  | plaintext name flag =>
      have unset := eq_false_of_ne_true (mt (flag_set_iff _).mp flag)
      simp [name, unset]
  | associatedData name plaintext flag =>
      have unset := eq_false_of_ne_true (mt (flag_set_iff _).mp flag)
      simp [name, plaintext, unset]
  | checksum name plaintext associatedData declared =>
      have mismatch := (EncryptionKey.expect_received_error_iff .ciphertext
        (response.ciphertext.getD []) response.ciphertextChecksum _).mpr ⟨declared, rfl⟩
      simpa [name, plaintext, associatedData] using mismatch

theorem doubted_iff (key : EncryptionKey) (response : Wire.EncryptResponse) (failure : Failure) :
    key.acceptEncrypted (Rest.encryptReply response) = .error failure ↔
      Doubted key.name.text response failure := by
  constructor
  · intro refused
    obtain ⟨ciphertext, vouches⟩ | ⟨first, doubted⟩ := vouched_or_doubted key.name response
    · rw [(vouches_iff key response ciphertext).mpr vouches] at refused
      cases refused
    · rw [doubted_refused key response first doubted] at refused
      cases refused
      exact doubted
  · exact doubted_refused key response failure

end Rest
end KeyCustody
