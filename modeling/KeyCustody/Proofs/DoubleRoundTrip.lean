import KeyCustody.Proofs.Acceptance
import KeyCustody.Proofs.DoubleCall
import KeyCustody.Proofs.KeyNameShape
import KeyCustody.Proofs.Sessions

set_option autoImplicit false

namespace KeyCustody

theorem Bytes.to_nat_concat (bytes : Bytes) (byte : UInt8) :
    toNat (bytes ++ [byte]) = 256 * toNat bytes + byte.toNat := by
  simp [toNat, Nat.mul_comm]

theorem Bytes.to_nat_of_nat {count value : Nat} (fits : value >>> (8 * count) = 0) :
    toNat (ofNat count value) = value := by
  induction count generalizing value with
  | zero => exact fits.symm
  | succ count ih =>
      have front : (value / 256) >>> (8 * count) = 0 := by
        rw [← Nat.shiftRight_eq_div_pow value 8, ← Nat.shiftRight_add]
        rwa [Nat.mul_succ, Nat.add_comm] at fits
      calc toNat (ofNat (count + 1) value)
          = 256 * toNat (ofNat count (value / 256)) + (UInt8.ofNat value).toNat := by
            rw [ofNat, to_nat_concat]
        _ = 256 * (value / 256) + value % 256 := by
            rw [ih front, UInt8.toNat_ofNat']
        _ = value := Nat.div_add_mod value 256

namespace ServiceDouble

theorem find_cons (name : String) (entry : String × SecretKey) (entries : List (String × SecretKey)) :
    (entry :: entries).find? (·.1 = name) =
      if entry.1 = name then some entry else entries.find? (·.1 = name) := by
  by_cases found : entry.1 = name <;> simp [found]

theorem find_insert (id name : String) (secret : SecretKey) (entries : List (String × SecretKey)) :
    (insert id secret entries).find? (·.1 = name) =
      if id = name then some (id, secret) else entries.find? (·.1 = name) := by
  induction entries with
  | nil => exact find_cons name (id, secret) []
  | cons entry entries ih =>
      obtain ⟨other, otherSecret⟩ := entry
      rw [insert]
      by_cases same : id = other
      · rw [if_pos same, find_cons, find_cons, ← same]
        by_cases found : id = name <;> simp [found]
      · rw [if_neg same]
        by_cases before : precedes id other
        · rw [if_pos before, find_cons]
        · rw [if_neg before, find_cons, find_cons, ih]
          by_cases found : id = name
          · have passed : other ≠ name := fun next => same (found.trans next.symm)
            rw [if_neg passed, if_pos found, if_pos found]
          · rw [if_neg found, if_neg found]

-- An ID that occurs more than once has the key that it was given last.
theorem key_of_keys (entries : List (String × SecretKey)) (strict : Bool) (name : String) :
    (ofKeys entries strict).key? name =
      (entries.reverse.find? (·.1 = name)).map Prod.snd := by
  rw [key?, ofKeys, List.foldl_eq_foldr_reverse]
  congr 1
  induction entries.reverse with
  | nil => rfl
  | cons entry entries ih => rw [List.foldr_cons, find_insert, ih, find_cons]

theorem known_key (entries : List (String × SecretKey)) (strict : Bool) (name : String)
    (known : name ∈ entries.map Prod.fst) :
    ∃ secret, (ofKeys entries strict).key name = .ok secret := by
  obtain ⟨entry, listed, rfl⟩ := List.mem_map.mp known
  have found : (entries.reverse.find? (·.1 = entry.1)).isSome := by
    rw [List.find?_isSome]
    exact ⟨entry, List.mem_reverse.mpr listed, by simp⟩
  obtain ⟨last, last_eq⟩ := Option.isSome_iff_exists.mp found
  exact ⟨last.2, by simp [key, key_of_keys, last_eq]⟩

section

variable {secret : SecretKey} {nonce : Nonce} {plaintext associatedData ciphertext : Bytes}

theorem lock_ok_iff : lock secret nonce associatedData plaintext = .ok ciphertext ↔
    ∃ sealed, Gcm.seal? (Aes.encryptBlock (Aes.schedule secret)) nonce associatedData plaintext =
      some sealed ∧ ciphertext = Bytes.ofNat 12 nonce.toNat ++ sealed := by
  unfold lock
  cases Gcm.seal? (Aes.encryptBlock (Aes.schedule secret)) nonce associatedData plaintext <;>
    simp [eq_comm]

theorem lock_within (secret : SecretKey) (nonce : Nonce)
    (short : plaintext.length ≤ Gcm.maxSize) (shortData : associatedData.length ≤ Gcm.maxSize) :
    ∃ ciphertext, lock secret nonce associatedData plaintext = .ok ciphertext := by
  have fits : plaintext.length ≤ Gcm.maxSize ∧ associatedData.length ≤ Gcm.maxSize :=
    ⟨short, shortData⟩
  exact ⟨_, lock_ok_iff.mpr ⟨_, if_pos fits, rfl⟩⟩

theorem length_lock (locked : lock secret nonce associatedData plaintext = .ok ciphertext) :
    ciphertext.length = plaintext.length + 28 := by
  obtain ⟨sealed, done, rfl⟩ := lock_ok_iff.mp locked
  rw [List.length_append, Bytes.length_of_nat, Gcm.length_seal done]
  omega

theorem unlock_lock (locked : lock secret nonce associatedData plaintext = .ok ciphertext) :
    unlock secret associatedData ciphertext = .ok plaintext := by
  obtain ⟨sealed, done, rfl⟩ := lock_ok_iff.mp locked
  have size : (Bytes.ofNat 12 nonce.toNat).length = 12 := Bytes.length_of_nat 12 _
  have front : (Bytes.ofNat 12 nonce.toNat ++ sealed).take 12 = Bytes.ofNat 12 nonce.toNat := by
    rw [List.take_left' size]
  have back : (Bytes.ofNat 12 nonce.toNat ++ sealed).drop 12 = sealed := by
    rw [List.drop_left' size]
  have fits : nonce.toNat >>> 96 = 0 := by
    rw [Nat.shiftRight_eq_div_pow, Nat.div_eq_of_lt nonce.isLt]
  have drawn : BitVec.ofNat 96 (Bytes.toNat (Bytes.ofNat 12 nonce.toNat)) = nonce := by
    rw [Bytes.to_nat_of_nat fits, BitVec.ofNat_toNat, BitVec.setWidth_eq]
  have long : ¬(Bytes.ofNat 12 nonce.toNat ++ sealed).length < 12 := by
    rw [List.length_append, size]
    omega
  simp only [unlock, if_neg long, front, back, drawn, Gcm.open_seal done]

end

theorem input_verified_own (strict : Bool) (payload : Bytes) (field : Field) :
    inputVerified strict (some payload) (some (.of payload)) field = .ok true := by
  simp [inputVerified, Checksum.verify]

theorem guard_input_own (payload : Bytes) (field : Field) :
    guardInput (some payload) (some (.of payload)) field = .ok () := by
  simp [guardInput, Checksum.verify]

theorem prepare_key (name : KeyName .key) : prepare name.text = .ok () :=
  if_pos (KeyGrammar.path_accepts_of_key name.accepted)

section

variable {double : ServiceDouble} (key : EncryptionKey) {secret : SecretKey} {nonce : Nonce}
  {plaintext associatedData ciphertext : Bytes}

theorem answer_encrypt (known : double.key key.name.text = .ok secret)
    (locked : lock secret nonce associatedData plaintext = .ok ciphertext) :
    double.answer nonce ⟨.encrypt, key.name.text,
        Rest.request (key.call .encrypt plaintext associatedData)⟩ =
      .ok ⟨some key.name.text, some ciphertext, some (.of ciphertext), some true, some true,
        some protectionLevel⟩ := by
  apply (answer_ok_iff _ _ _ _).mpr
  refine ⟨prepare_key key.name, ?_⟩
  apply (encrypt_ok_iff _ _ _ _ _).mpr
  exact ⟨secret, known, true, input_verified_own _ _ _, true, input_verified_own _ _ _, ciphertext,
    locked, rfl⟩

theorem answer_decrypt (known : double.key key.name.text = .ok secret)
    (unlocked : unlock secret associatedData ciphertext = .ok plaintext) :
    double.answer nonce ⟨.decrypt, key.name.text,
        Rest.request (key.call .decrypt ciphertext associatedData)⟩ =
      .ok ⟨if plaintext = [] then none else some plaintext, some (.of plaintext), some true,
        some protectionLevel⟩ := by
  apply (answer_ok_iff _ _ _ _).mpr
  refine ⟨prepare_key key.name, ?_⟩
  apply (decrypt_ok_iff _ _ _ _).mpr
  exact ⟨secret, known, guard_input_own _ _, guard_input_own _ _, plaintext, unlocked, rfl⟩

end
end ServiceDouble

namespace EncryptionKey

theorem answer_on_double (double : ServiceDouble) (draw : Nat → Nonce) (drawn : Nat)
    (name : KeyName .key) (use : Use) :
    let key : EncryptionKey := ⟨name, .rest⟩
    (Turn.taken overRest (double.farSide draw) (name, use) drawn).answer =
      key.conclude use.verb ((double.answer (draw drawn) ⟨use.verb, name.text,
        Rest.request (key.call use.verb use.payload use.associatedData)⟩).map
          (Rest.reply use.verb)) :=
  rfl

section

variable {double : ServiceDouble} {name : KeyName .key} {secret : SecretKey} {draw : Nat → Nonce}
  {drawn : Nat} {plaintext associatedData ciphertext : Bytes}

theorem encrypt_on_double (known : double.key name.text = .ok secret)
    (locked : ServiceDouble.lock secret (draw drawn) associatedData plaintext = .ok ciphertext) :
    (Turn.taken overRest (double.farSide draw) (name, ⟨.encrypt, plaintext, associatedData⟩)
      drawn).answer = .ok ciphertext := by
  rw [answer_on_double, ServiceDouble.answer_encrypt ⟨name, .rest⟩ known locked]
  apply (Rest.vouches_iff _ _ _).mpr
  exact {
    name := ⟨name.text, rfl, without_version_of_key name.accepted⟩
    plaintext := rfl
    associatedData := rfl
    octets := rfl
    checksum := rfl }

theorem decrypt_on_double (known : double.key name.text = .ok secret)
    (unlocked : ServiceDouble.unlock secret associatedData ciphertext = .ok plaintext) :
    (Turn.taken overRest (double.farSide draw) (name, ⟨.decrypt, ciphertext, associatedData⟩)
      drawn).answer = .ok plaintext := by
  rw [answer_on_double, ServiceDouble.answer_decrypt ⟨name, .rest⟩ known unlocked]
  apply (accept_decrypted_ok_iff _ _).mpr
  -- An empty plaintext comes without the field, which is read as no octets.
  by_cases empty : plaintext = [] <;> simp [Rest.reply, Rest.decryptReply, empty]

end

theorem round_trip_on_double {α : Type} (entries : List (String × SecretKey)) (strict : Bool)
    (draw : Nat → Nonce) (drawn : Nat) (session : Dialogue surface α) (name : KeyName .key)
    (known : name.text ∈ entries.map Prod.fst) (plaintext associatedData : Bytes)
    (short : plaintext.length ≤ Gcm.maxSize) (shortData : associatedData.length ≤ Gcm.maxSize) :
    let key : EncryptionKey := ⟨name, .rest⟩
    let double := ServiceDouble.ofKeys entries strict
    let turns := session.turns overRest (double.farSide draw) drawn
    build (some name.text) true false = .ok key ∧
    ∀ sealing ∈ turns, sealing.query = (name, ⟨.encrypt, plaintext, associatedData⟩) →
      ∃ ciphertext, sealing.answer = .ok ciphertext ∧ ciphertext.length = plaintext.length + 28 ∧
        (∀ opening ∈ turns, opening.query = (name, ⟨.decrypt, ciphertext, associatedData⟩) →
          opening.answer = .ok plaintext) ∧
        ∀ nonce, ∃ response : Wire.DecryptResponse,
          double.answer nonce ⟨.decrypt, name.text,
            Rest.request (key.call .decrypt ciphertext associatedData)⟩ = .ok response ∧
          (response.plaintext = none ↔ plaintext = []) := by
  intro key double turns
  refine ⟨build_over name rfl, ?_⟩
  obtain ⟨secret, found⟩ := ServiceDouble.known_key entries strict name.text known
  apply Dialogue.each_turn
  rintro _ state rfl
  obtain ⟨ciphertext, locked⟩ := ServiceDouble.lock_within secret (draw state) short shortData
  have unlocked := ServiceDouble.unlock_lock locked
  refine ⟨ciphertext, encrypt_on_double found locked, ServiceDouble.length_lock locked, ?_, ?_⟩
  · apply Dialogue.each_turn
    rintro _ later rfl
    exact decrypt_on_double found unlocked
  · intro nonce
    refine ⟨_, ServiceDouble.answer_decrypt key found unlocked, ?_⟩
    by_cases empty : plaintext = [] <;> simp [empty]

def thereAndBack (name : KeyName .key) (plaintext associatedData : Bytes) :
    Dialogue surface (Except Failure Bytes) :=
  .ask (name, ⟨.encrypt, plaintext, associatedData⟩) fun
    | .ok ciphertext => .ask (name, ⟨.decrypt, ciphertext, associatedData⟩) .done
    | .error failure => .done (.error failure)

theorem turns_there_and_back {σ : Type} (far : FarSide Rest.surface σ) (state : σ)
    (name : KeyName .key) (plaintext associatedData ciphertext : Bytes) :
    let first := Turn.taken overRest far (name, ⟨.encrypt, plaintext, associatedData⟩) state
    let session := thereAndBack name plaintext associatedData
    first ∈ session.turns overRest far state ∧
    (first.answer = .ok ciphertext →
      ∃ last ∈ session.turns overRest far state,
        last.query = (name, ⟨.decrypt, ciphertext, associatedData⟩) ∧
        ((session.via overRest).hold far state).result = last.answer) := by
  intro first session
  refine ⟨List.mem_cons_self, fun sealed => ?_⟩
  let held := (overRest (name, ⟨.encrypt, plaintext, associatedData⟩)).hold far state
  have reached : held.result = .ok ciphertext := sealed
  refine ⟨Turn.taken overRest far (name, ⟨.decrypt, ciphertext, associatedData⟩) held.state, ?_, rfl,
    ?_⟩
  · simp only [session, thereAndBack, Dialogue.turns]
    rw [reached]
    exact List.mem_cons_of_mem _ List.mem_cons_self
  · simp only [session, thereAndBack, Dialogue.via, Dialogue.hold_bind]
    rw [reached]
    simp only [Dialogue.via, Dialogue.hold_bind, Dialogue.hold]
    rfl

theorem nothing_there_and_back :
    let entries : List (String × SecretKey) :=
      [(KeyName.sample.text, 7#128), ("", 8#128), (KeyName.sample.text, 9#128)]
    let far := (ServiceDouble.ofKeys entries true).farSide fun drawn => BitVec.ofNat 96 drawn
    KeyName.sample.text ∈ entries.map Prod.fst ∧ ([] : Bytes).length ≤ Gcm.maxSize ∧
      ([5] : Bytes).length ≤ Gcm.maxSize ∧
      (((thereAndBack .sample [] [5]).via overRest).hold far 0).result = .ok [] := by
  intro entries far
  have known : KeyName.sample.text ∈ entries.map Prod.fst := List.mem_cons_self
  have short : ([] : Bytes).length ≤ Gcm.maxSize := by decide
  have shortData : ([5] : Bytes).length ≤ Gcm.maxSize := by decide
  obtain ⟨-, opens⟩ := round_trip_on_double entries true (fun drawn => BitVec.ofNat 96 drawn) 0
    (thereAndBack .sample [] [5]) .sample known [] [5] short shortData
  have first := (turns_there_and_back far 0 .sample [] [5] []).1
  obtain ⟨ciphertext, sealed, -, opened, -⟩ := opens _ first rfl
  obtain ⟨last, listed, wanted, result⟩ :=
    (turns_there_and_back far 0 .sample [] [5] ciphertext).2 sealed
  exact ⟨known, short, shortData, result.trans (opened last listed wanted)⟩

end EncryptionKey
end KeyCustody
