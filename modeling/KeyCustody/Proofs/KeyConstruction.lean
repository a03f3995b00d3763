import KeyCustody.Proofs.LinkEquivalence
import KeyCustody.Proofs.SigningDescriptor

set_option autoImplicit false

namespace KeyCustody

theorem Rpc.PublicKey.pem_intact_or_not (descriptor : PublicKey) :
    descriptor.PemIntact ∨ ∃ declared, descriptor.pemChecksum = some declared ∧
      .of (Utf8.encode descriptor.pem.toList) ≠ declared := by
  cases given : descriptor.pemChecksum with
  | none => exact .inl fun declared declares => nomatch given.symm.trans declares
  | some checksum =>
      by_cases same : .of (Utf8.encode descriptor.pem.toList) = checksum
      · refine .inl fun declared declares => ?_
        exact (Option.some.inj (given.symm.trans declares)).symm.trans same.symm
      · exact .inr ⟨checksum, rfl, same⟩

namespace SigningKey

open Rpc (PublicKey)

section

variable {σ : Type} (service : FarSide Rpc.surface σ) (start : σ)

inductive Built (name : Option String) (client : Bool) :
    List Rpc.Query → Except Failure SigningKey → Prop where
  | refused {refused : KeyName.Refused} (unfit : KeyName.Unfit .version name refused) :
      Built name client [] (.error (.keyName refused))
  | noClient {version : KeyName .version} (named : name = some version.text)
      (missing : client = false) : Built name client [] (.error (.configuration .noRpcClient))
  | unavailable {version : KeyName .version} {cause : ServiceFailure}
      (named : name = some version.text) (given : client = true)
      (answered : (service (.publicKey version.text) start).1 = .error cause) :
      Built name client [.publicKey version.text] (.error (.noPublicKey version.text cause))
  | corrupted {version : KeyName .version} {descriptor : PublicKey} {declared : Checksum}
      (named : name = some version.text) (given : client = true)
      (answered : (service (.publicKey version.text) start).1 = .ok descriptor)
      (declares : descriptor.pemChecksum = some declared)
      (different : .of (Utf8.encode descriptor.pem.toList) ≠ declared) :
      Built name client [.publicKey version.text] (.error (.checksum
        ⟨.publicKeyPem, some declared, .of (Utf8.encode descriptor.pem.toList)⟩))
  | built {version : KeyName .version} {descriptor : PublicKey}
      (named : name = some version.text) (given : client = true)
      (answered : (service (.publicKey version.text) start).1 = .ok descriptor)
      (intact : descriptor.PemIntact) :
      Built name client [.publicKey version.text] (.ok ⟨version, descriptor⟩)

end

theorem accept_intact (version : KeyName .version) {descriptor : PublicKey}
    (intact : descriptor.PemIntact) :
    acceptPublicKey version (.ok descriptor) = .ok ⟨version, descriptor⟩ :=
  (accept_public_key_ok_iff _ _ _).mpr ⟨rfl, rfl, intact⟩

theorem accept_corrupted (version : KeyName .version) {descriptor : PublicKey} {declared : Checksum}
    (declares : descriptor.pemChecksum = some declared)
    (different : .of (Utf8.encode descriptor.pem.toList) ≠ declared) :
    acceptPublicKey version (.ok descriptor) = .error (.checksum
      ⟨.publicKeyPem, some declared, .of (Utf8.encode descriptor.pem.toList)⟩) := by
  simp only [acceptPublicKey, declares, Checksum.verify, if_neg different]

theorem outcome_of_building {σ : Type} (service : FarSide Rpc.surface σ) (start : σ)
    (name : Option String) (client : Bool) (asked : List Rpc.Query)
    (result : Except Failure SigningKey) :
    let held := (build name client).hold service start
    Built service start name client asked result ↔ held.asked = asked ∧ held.result = result := by
  intro held
  constructor
  · intro built
    cases built with
    | refused unfit => simp only [held, hold_unfit service start unfit, and_self]
    | noClient named missing =>
        subst named missing
        simp only [held, hold_build, Bool.false_eq_true, if_false, and_self]
    | unavailable named given answered =>
        subst named given
        simp only [held, hold_build, if_true, answered, acceptPublicKey, and_self]
    | corrupted named given answered declares different =>
        subst named given
        simp only [held, hold_build, if_true, answered, accept_corrupted _ declares different,
          and_self]
    | built named given answered intact =>
        subst named given
        simp only [held, hold_build, if_true, answered, accept_intact _ intact, and_self]
  · intro ends
    obtain ⟨rfl, rfl⟩ := ends
    obtain ⟨version, rfl⟩ | ⟨refused, unfit⟩ := KeyName.fit_or_unfit .version name
    · cases client with
      | false =>
          simp only [held, hold_build, Bool.false_eq_true, if_false]
          exact .noClient rfl rfl
      | true =>
          simp only [held, hold_build, if_true]
          cases answered : (service (.publicKey version.text) start).1 with
          | error cause => exact .unavailable rfl rfl answered
          | ok descriptor =>
              obtain intact | ⟨declared, declares, different⟩ := descriptor.pem_intact_or_not
              · rw [accept_intact version intact]
                exact .built rfl rfl answered intact
              · rw [accept_corrupted version declares different]
                exact .corrupted rfl rfl answered declares different
    · simp only [held, hold_unfit service start unfit]
      exact .refused unfit

end SigningKey

namespace EncryptionKey

structure Interchangeable (text : String) (link : Link) (one other : EncryptionKey) : Prop where
  name : one.name.text = text ∧ other.name.text = text
  across : one.link = link ∧ other.link = link
  held : ∀ {σ : Type} (far : FarSide link.surface σ) (state : σ) (uses : List Use),
    ((one.performAll uses).via link.calls).hold far state =
      ((other.performAll uses).via link.calls).hold far state

theorem only_given (link : Link) : Link.only? (link = .rest) (link = .rpc) = some link := by
  cases link <;> rfl

theorem only_none_or_both (both : Bool) : Link.only? both both = none := by
  cases both <;> rfl

section

variable {grammar : KeyGrammar} (name : KeyName grammar) (link : Link)

theorem of_name_accepted (accepted : KeyGrammar.key.accepts name.text = true) :
    ofName name link = .ok ⟨⟨name.text, accepted⟩, link⟩ := by
  simp [ofName, KeyName.check, accepted]

theorem of_name_outside (rejected : KeyGrammar.key.accepts name.text = false) :
    ofName name link = .error (.keyName ⟨name.text, .outside .key⟩) := by
  simp only [ofName, KeyName.check_outside rejected]

theorem made_of_name {key : EncryptionKey} (made : ofName name link = .ok key) :
    KeyGrammar.key.accepts name.text = true ∧ key.name.text = name.text := by
  cases accepted : KeyGrammar.key.accepts name.text with
  | true =>
      rw [of_name_accepted name link accepted] at made
      cases made
      exact ⟨rfl, rfl⟩
  | false =>
      rw [of_name_outside name link accepted] at made
      cases made

end

theorem build_none_or_both_iff (name : Option String) (both : Bool)
    (result : Except Failure EncryptionKey) :
    build name both both = result ↔
      (∃ refused, KeyName.Unfit .key name refused ∧ result = .error (.keyName refused)) ∨
      (∃ key : KeyName .key, name = some key.text) ∧
        result = .error (.configuration .notExactlyOne) := by
  simp only [← KeyName.parse_error_iff, ← KeyName.parse_ok_iff, build]
  cases KeyName.parse? .key name with
  | error refused => simp [eq_comm]
  | ok parsed => simp [only_none_or_both, eq_comm]

theorem both_ways_agree {grammar : KeyGrammar} {text : String} {name : KeyName grammar}
    (parsed : KeyName.parse grammar text = .ok name) (link : Link) :
    let direct := ofName name link
    let built := build (some text) (link = .rest) (link = .rpc)
    let refusal : Failure := .keyName ⟨text, .outside .key⟩
    (KeyGrammar.key.accepts text = true →
      ∃ one other, direct = .ok one ∧ built = .ok other ∧ Interchangeable text link one other) ∧
    (KeyGrammar.key.accepts text = false → direct = .error refusal ∧ built = .error refusal) ∧
    (∀ key, direct = .ok key →
      KeyGrammar.key.accepts text = true ∧ key.name.text = text) ∧
    (∀ name rest rpc key, build name rest rpc = .ok key →
      ∃ given, name = some given ∧ KeyGrammar.key.accepts given = true ∧ key.name.text = given) ∧
    ∀ (name : Option String) (both : Bool) (result : Except Failure EncryptionKey),
      build name both both = result ↔
        (∃ refused, KeyName.Unfit .key name refused ∧ result = .error (.keyName refused)) ∨
        (∃ key : KeyName .key, name = some key.text) ∧
          result = .error (.configuration .notExactlyOne) := by
  obtain rfl := KeyName.parse_text parsed
  intro direct built refusal
  refine ⟨?_, ?_, ?_, ?_, build_none_or_both_iff⟩
  · intro accepted
    let key : EncryptionKey := ⟨⟨name.text, accepted⟩, link⟩
    have built := build_over key.name (only_given link)
    refine ⟨key, key, of_name_accepted name link accepted, built, ?_⟩
    exact { name := ⟨rfl, rfl⟩, across := ⟨rfl, rfl⟩, held := fun _ _ _ => rfl }
  · intro rejected
    have unfit := KeyName.Unfit.outside name.text_ne_empty rejected
    exact ⟨of_name_outside name link rejected, build_unfit unfit _ _⟩
  · intro key made
    exact made_of_name name link made
  · intro given rest rpc key made
    cases given with
    | none => cases made
    | some given =>
        obtain ⟨rfl, -⟩ := built_over made
        exact ⟨key.name.text, rfl, key.name.accepted, rfl⟩

-- The wider grammars admit names of keys and of versions; only the former make a key.
theorem wider_names_made_or_refused :
    let key := KeyName.sample.text
    let version := KeyName.sampleVersion.text
    let refusal : Failure := .keyName ⟨version, .outside .key⟩
    ∃ (path : KeyName .path) (one other : EncryptionKey),
      KeyName.parse .path key = .ok path ∧ ofName path .rest = .ok one ∧
      build (some key) true false = .ok other ∧ Interchangeable key .rest one other ∧
      KeyName.parse .version version = .ok .sampleVersion ∧
      ofName .sampleVersion .rpc = .error refusal ∧
      build (some version) false true = .error refusal := by
  intro key version refusal
  let path : KeyName .path := ⟨key, by decide +kernel⟩
  have parsedPath : KeyName.parse .path key = .ok path := path.parse_own
  have parsedVersion := KeyName.sampleVersion.parse_own
  have rejected : KeyGrammar.key.accepts version = false := by decide +kernel
  obtain ⟨made, -⟩ := both_ways_agree parsedPath .rest
  obtain ⟨one, other, direct, built, alike⟩ := made KeyName.sample.accepted
  obtain ⟨-, refused, -⟩ := both_ways_agree parsedVersion .rpc
  obtain ⟨refusedDirect, refusedBuilt⟩ := refused rejected
  exact ⟨path, one, other, parsedPath, direct, built, alike, parsedVersion, refusedDirect,
    refusedBuilt⟩

end EncryptionKey
end KeyCustody
