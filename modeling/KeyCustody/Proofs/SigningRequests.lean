import KeyCustody.Proofs.Sessions
import KeyCustody.Proofs.SigningAcceptance

set_option autoImplicit false

namespace KeyCustody

namespace HashFunction

def word : HashFunction → String
  | sha256 => "SHA256"
  | sha384 => "SHA384"
  | sha512 => "SHA512"

def ofWord? (text : List Char) : Option HashFunction :=
  [sha256, sha384, sha512].find? (·.word.toList = text)

end HashFunction

namespace Algorithm

def words (algorithm : Algorithm) : List (List Char) :=
  List.splitOn '_' algorithm.wireName.toList

-- The hash that an algorithm for signing has at the end of its name.
def namedHash? (algorithm : Algorithm) : Option HashFunction :=
  if "SIGN".toList ∈ algorithm.words then algorithm.words.getLast?.bind HashFunction.ofWord?
  else none

def IsRaw (algorithm : Algorithm) : Prop :=
  "RAW".toList ∈ algorithm.words ∨ "ED25519".toList ∈ algorithm.words

instance (algorithm : Algorithm) : Decidable algorithm.IsRaw :=
  inferInstanceAs (Decidable (_ ∨ _))

theorem hash_eq_named (algorithm : Algorithm) : algorithm.hash? = algorithm.namedHash? := by
  cases algorithm <;> decide +kernel

theorem signs_data_iff (algorithm : Algorithm) : algorithm.signsData = true ↔ algorithm.IsRaw := by
  cases algorithm <;> decide +kernel

end Algorithm

namespace SigningKey

open Rpc (SignRequest)

def TakesData (algorithm : Algorithm) (level : ProtectionLevel) : Prop :=
  algorithm.IsRaw ∨ level = .external ∨ level = .externalVpc

theorem needs_data_iff (algorithm : Algorithm) (level : ProtectionLevel) :
    needsData algorithm level = true ↔ TakesData algorithm level := by
  rw [needsData, Bool.or_eq_true, Algorithm.signs_data_iff, TakesData]
  cases level <;> simp [ProtectionLevel.isExternal]

inductive Prepared (version : String) (algorithm : Algorithm) (level : ProtectionLevel)
    (data : Bytes) : Except Failure SignRequest → Prop where
  | tooLarge (large : 65536 < data.length) :
      Prepared version algorithm level data (.error (.tooLarge data.length 65536))
  | noDigest (fits : data.length ≤ 65536) (digested : ¬TakesData algorithm level)
      (unnamed : algorithm.namedHash? = none) :
      Prepared version algorithm level data (.error (.noDigest algorithm))
  | data (fits : data.length ≤ 65536) (taken : TakesData algorithm level) :
      Prepared version algorithm level data (.ok {
        name := version
        digest := none
        digestChecksum := none
        data := data
        dataChecksum := some (.of data) })
  | digest (fits : data.length ≤ 65536) (digested : ¬TakesData algorithm level)
      {hash : HashFunction} (named : algorithm.namedHash? = some hash)
      (size : (hash.digest data).length = hash.size) :
      Prepared version algorithm level data (.ok {
        name := version
        digest := some ⟨hash, hash.digest data⟩
        digestChecksum := some (.of (hash.digest data))
        data := []
        dataChecksum := none })

section

variable {key : SigningKey} {data : Bytes}

theorem request_too_large (large : 65536 < data.length) :
    key.request data = .error (.tooLarge data.length 65536) :=
  if_pos large

theorem request_data (fits : data.length ≤ 65536)
    (taken : TakesData key.publicKey.algorithm key.publicKey.protectionLevel) :
    key.request data = .ok (key.dataRequest data) := by
  have within : ¬data.length > maxDataSize := Nat.not_lt.mpr fits
  rw [SigningKey.request, if_neg within, if_pos ((needs_data_iff _ _).mpr taken)]

theorem request_digest (fits : data.length ≤ 65536)
    (digested : ¬TakesData key.publicKey.algorithm key.publicKey.protectionLevel) :
    key.request data =
      match key.publicKey.algorithm.namedHash? with
      | none => .error (.noDigest key.publicKey.algorithm)
      | some hash => .ok (key.digestRequest ⟨hash, hash.digest data⟩) := by
  have within : ¬data.length > maxDataSize := Nat.not_lt.mpr fits
  rw [SigningKey.request, if_neg within, if_neg (mt (needs_data_iff _ _).mp digested),
    Algorithm.digest, Algorithm.hash_eq_named]
  cases key.publicKey.algorithm.namedHash? <;> rfl

theorem request_prepared (key : SigningKey) (data : Bytes) :
    Prepared key.name.text key.publicKey.algorithm key.publicKey.protectionLevel data
      (key.request data) := by
  by_cases large : 65536 < data.length
  · rw [request_too_large large]
    exact .tooLarge large
  have fits := Nat.not_lt.mp large
  by_cases taken : TakesData key.publicKey.algorithm key.publicKey.protectionLevel
  · rw [request_data fits taken]
    exact .data fits taken
  rw [request_digest fits taken]
  cases named : key.publicKey.algorithm.namedHash? with
  | none => exact .noDigest fits taken named
  | some hash => exact .digest fits taken named (hash.length_digest data)

theorem prepared_iff (key : SigningKey) (data : Bytes) (request : Except Failure SignRequest) :
    Prepared key.name.text key.publicKey.algorithm key.publicKey.protectionLevel data request ↔
      key.request data = request := by
  constructor
  · intro prepared
    cases prepared with
    | tooLarge large => exact request_too_large large
    | noDigest fits digested unnamed => rw [request_digest fits digested, unnamed]
    | data fits taken => exact request_data fits taken
    | digest fits digested named size =>
        rw [request_digest fits digested, named]
        rfl
  · rintro rfl
    exact key.request_prepared data

end

abbrev surface : Surface where
  Query := Bytes
  Answer _ := Except Failure Bytes

inductive Asks : Except Failure SignRequest → List Rpc.Query → Except Failure Bytes → Prop where
  | nothing (failure : Failure) : Asks (.error failure) [] (.error failure)
  | once (request : SignRequest) (result : Except Failure Bytes) :
      Asks (.ok request) [.sign request] result

theorem sign_asks {σ : Type} (key : SigningKey) (data : Bytes) (far : FarSide Rpc.surface σ)
    (state : σ) :
    let held := (key.sign data).hold far state
    Asks (key.request data) held.asked held.result := by
  rw [hold_sign]
  cases key.request data with
  | error failure => exact .nothing failure
  | ok request => exact .once request _

theorem requests_of_signing {σ : Type} (service : FarSide Rpc.surface σ) (start : σ)
    (version : String) (key : SigningKey)
    (built : ((build (some version) true).hold service start).result = .ok key) :
    ∃ descriptor, (service (.publicKey version) start).1 = .ok descriptor ∧
    ∃ prepared : Bytes → Except Failure SignRequest,
      (∀ data request, Prepared version descriptor.algorithm descriptor.protectionLevel data
        request ↔ prepared data = request) ∧
      ∀ {τ α : Type} (far : FarSide Rpc.surface τ) (state : τ) (session : Dialogue surface α),
        let turns := session.turns key.sign far state
        ((session.via key.sign).hold far state).asked = turns.flatMap Turn.asked ∧
        ∀ turn ∈ turns, Asks (prepared turn.query) turn.asked turn.answer := by
  obtain ⟨rfl, answered⟩ := built_key built
  refine ⟨key.publicKey, answered, key.request, key.prepared_iff, ?_⟩
  intro τ α far state session turns
  refine ⟨session.asked_via key.sign far state, ?_⟩
  apply Dialogue.each_turn
  intro data state
  exact key.sign_asks data far state

theorem asked_once {request : SignRequest} {asked : List Rpc.Query} {result : Except Failure Bytes}
    (asks : Asks (.ok request) asked result) : asked = [.sign request] := by
  cases asks
  rfl

theorem asked_nothing {failure : Failure} {asked : List Rpc.Query} {result : Except Failure Bytes}
    (asks : Asks (.error failure) asked result) : asked = [] ∧ result = .error failure := by
  cases asks
  exact ⟨rfl, rfl⟩

theorem sample_calls_asked :
    let large : Bytes := List.replicate 65537 0
    let turns (algorithm : Algorithm) (first second : Bytes) : List (Turn surface Rpc.surface) :=
      (Dialogue.inTurn (S := surface) first second).turns (sampleKey algorithm).sign
        (sampleService algorithm) ()
    let version := KeyName.sampleVersion.text
    (∀ algorithm, ((build (some version) true).hold (sampleService algorithm) ()).result =
      .ok (sampleKey algorithm)) ∧
    (turns .ecSignEd25519 [7] [8, 9]).map Turn.asked =
      [[.sign ((sampleKey .ecSignEd25519).dataRequest [7])],
        [.sign ((sampleKey .ecSignEd25519).dataRequest [8, 9])]] ∧
    (turns .ecSignP384Sha384 [7] [8, 9]).map Turn.asked =
      [[.sign ((sampleKey .ecSignP384Sha384).digestRequest
          ⟨.sha384, HashFunction.digest .sha384 [7]⟩)],
        [.sign ((sampleKey .ecSignP384Sha384).digestRequest
          ⟨.sha384, HashFunction.digest .sha384 [8, 9]⟩)]] ∧
    (turns .rsaDecryptOaep2048Sha256 large [7]).map (fun turn => (turn.asked, turn.answer)) =
      [([], .error (.tooLarge 65537 65536)), ([], .error (.noDigest .rsaDecryptOaep2048Sha256))] := by
  intro large turns version
  have run (algorithm : Algorithm) (first second : Bytes) {one two : Except Failure SignRequest}
      (firstPrepared : Prepared version algorithm .hsm first one)
      (secondPrepared : Prepared version algorithm .hsm second two) :
      ∃ asked asked' answer answer', turns algorithm first second =
          [⟨first, asked, answer⟩, ⟨second, asked', answer'⟩] ∧
        Asks one asked answer ∧ Asks two asked' answer' := by
    obtain ⟨_, answered, prepared, determined, run⟩ := requests_of_signing (sampleService algorithm)
      () version (sampleKey algorithm) (built_over_sample_service algorithm)
    cases answered
    obtain ⟨-, asks⟩ := run (sampleService algorithm) () (Dialogue.inTurn (S := surface) first second)
    rw [Dialogue.turns_in_turn] at asks
    simp only [List.forall_mem_cons, Turn.taken_query, (determined _ _).mp firstPrepared,
      (determined _ _).mp secondPrepared] at asks
    exact ⟨_, _, _, _, rfl, asks.1, asks.2.1⟩
  have raw : TakesData .ecSignEd25519 .hsm := .inl (by decide +kernel)
  have digested : ¬TakesData .ecSignP384Sha384 .hsm := by
    rw [← needs_data_iff]
    decide
  have unnamed : ¬TakesData .rsaDecryptOaep2048Sha256 .hsm := by
    rw [← needs_data_iff]
    decide
  have tooLarge : 65536 < large.length := by
    rw [List.length_replicate]
    decide
  refine ⟨built_over_sample_service, ?_, ?_, ?_⟩
  · obtain ⟨_, _, _, _, same, first, second⟩ := run .ecSignEd25519 [7] [8, 9]
      (.data (by decide) raw) (.data (by decide) raw)
    rw [same, asked_once first, asked_once second]
    rfl
  · have named : Algorithm.ecSignP384Sha384.namedHash? = some .sha384 := by decide +kernel
    obtain ⟨_, _, _, _, same, first, second⟩ := run .ecSignP384Sha384 [7] [8, 9]
      (.digest (by decide) digested named (HashFunction.length_digest _ _))
      (.digest (by decide) digested named (HashFunction.length_digest _ _))
    rw [same, asked_once first, asked_once second]
    rfl
  · obtain ⟨_, _, _, _, same, first, second⟩ := run .rsaDecryptOaep2048Sha256 large [7]
      (.tooLarge tooLarge) (.noDigest (by decide) unnamed (by decide +kernel))
    obtain ⟨rfl, rfl⟩ := asked_nothing first
    obtain ⟨rfl, rfl⟩ := asked_nothing second
    rw [same, List.length_replicate]
    rfl

end SigningKey
end KeyCustody
