import KeyCustody.Proofs.SigningRequests

set_option autoImplicit false

namespace KeyCustody

namespace Rpc.PublicKey

def PemIntact (descriptor : PublicKey) : Prop :=
  ∀ declared, descriptor.pemChecksum = some declared →
    declared = .of (Utf8.encode descriptor.pem.toList)

theorem pem_intact_iff (descriptor : PublicKey) :
    descriptor.PemIntact ↔
      ∃ verification, Checksum.verify (some (Utf8.encode descriptor.pem.toList))
        descriptor.pemChecksum .publicKeyPem = .ok verification := by
  unfold PemIntact
  cases declared : descriptor.pemChecksum with
  | none => simp [Checksum.verify]
  | some checksum =>
      by_cases same : Checksum.of (Utf8.encode descriptor.pem.toList) = checksum
      · simp [Checksum.verify, same]
      · simp [Checksum.verify, same, Ne.symm same]

end Rpc.PublicKey

namespace SigningKey

open Rpc (PublicKey)

structure HoldsOwnDescriptor (key : SigningKey) : Prop where
  version : KeyGrammar.version.accepts key.name.text = true
  name : key.publicKey.name = key.name.text
  pem : key.publicKey.PemIntact

section

variable {σ : Type} {service : FarSide Rpc.surface σ} {start : σ}

theorem accept_public_key_ok_iff (name : KeyName .version) (answer : Except ServiceFailure PublicKey)
    (key : SigningKey) :
    acceptPublicKey name answer = .ok key ↔
      answer = .ok key.publicKey ∧ key.name = name ∧ key.publicKey.PemIntact := by
  constructor
  · intro accepted
    obtain ⟨named, answered⟩ := accepted_public_key accepted
    refine ⟨answered, named, ?_⟩
    rw [answered] at accepted
    apply key.publicKey.pem_intact_iff.mpr
    simp only [acceptPublicKey] at accepted
    split at accepted
    · cases accepted
    · exact ⟨_, ‹_›⟩
  · intro intact
    obtain ⟨rfl, rfl, pem⟩ := intact
    obtain ⟨verification, verified⟩ := key.publicKey.pem_intact_iff.mp pem
    simp only [acceptPublicKey, verified]

theorem build_ok_iff (name : Option String) (client : Bool) (key : SigningKey) :
    ((build name client).hold service start).result = .ok key ↔
      name = some key.name.text ∧ client = true ∧
        (service (.publicKey key.name.text) start).1 = .ok key.publicKey ∧
        key.publicKey.PemIntact := by
  constructor
  · intro built
    obtain ⟨version, rfl⟩ | ⟨refused, unfit⟩ := KeyName.fit_or_unfit .version name
    · rw [hold_build] at built
      cases client with
      | false => cases built
      | true =>
          obtain ⟨answered, rfl, pem⟩ := (accept_public_key_ok_iff _ _ _).mp built
          exact ⟨rfl, rfl, answered, pem⟩
    · rw [hold_unfit service start unfit] at built
      cases built
  · intro parts
    obtain ⟨rfl, rfl, answered, pem⟩ := parts
    rw [hold_build]
    exact (accept_public_key_ok_iff _ _ _).mpr ⟨answered, rfl, pem⟩

end

theorem own_descriptor_iff_answered {σ : Type} (service : FarSide Rpc.surface σ) (start : σ)
    (name : Option String) (client : Bool) :
    let result := ((build name client).hold service start).result
    (∀ key, result = .ok key →
      name = some key.name.text ∧ KeyGrammar.version.accepts key.name.text = true ∧
      key.publicKey.PemIntact ∧
      ∃ descriptor, (service (.publicKey key.name.text) start).1 = .ok descriptor ∧
        (key.HoldsOwnDescriptor ↔ descriptor.name = key.name.text) ∧
        ∀ data request,
          Prepared key.name.text descriptor.algorithm descriptor.protectionLevel data request ↔
            key.request data = request) ∧
    ((∃ key, result = .ok key ∧ ¬key.HoldsOwnDescriptor) ↔
      client = true ∧ ∃ (version : KeyName .version) (descriptor : PublicKey),
        name = some version.text ∧ (service (.publicKey version.text) start).1 = .ok descriptor ∧
        descriptor.PemIntact ∧ descriptor.name ≠ version.text) := by
  intro result
  refine ⟨?_, ?_, ?_⟩
  · intro key built
    obtain ⟨named, -, answered, pem⟩ := (build_ok_iff name client key).mp built
    have version := key.name.accepted
    refine ⟨named, version, pem, key.publicKey, answered, ?_, key.prepared_iff⟩
    constructor
    · intro own
      exact own.name
    · intro own
      exact ⟨version, own, pem⟩
  · intro foreign
    obtain ⟨key, built, lacks⟩ := foreign
    obtain ⟨named, given, answered, pem⟩ := (build_ok_iff name client key).mp built
    refine ⟨given, key.name, key.publicKey, named, answered, pem, ?_⟩
    intro own
    exact lacks ⟨key.name.accepted, own, pem⟩
  · intro foreign
    obtain ⟨given, version, descriptor, named, answered, pem, other⟩ := foreign
    have built := (build_ok_iff name client ⟨version, descriptor⟩).mpr ⟨named, given, answered, pem⟩
    refine ⟨⟨version, descriptor⟩, built, ?_⟩
    intro own
    exact other own.name

theorem sample_holds_own_descriptor :
    let key : SigningKey := sampleKey .ecSignEd25519
    ((build (some KeyName.sampleVersion.text) true).hold (sampleService .ecSignEd25519) ()).result = .ok key ∧
      key.HoldsOwnDescriptor := by
  intro key
  obtain ⟨own, -⟩ := own_descriptor_iff_answered (sampleService .ecSignEd25519) ()
    (some KeyName.sampleVersion.text) true
  obtain ⟨-, -, -, descriptor, answered, holds, -⟩ := own key (built_over_sample_service _)
  cases answered
  exact ⟨built_over_sample_service _, holds.mpr rfl⟩

def secondVersion : KeyName .version :=
  ⟨"projects/p/locations/l/keyRings/r/cryptoKeys/k/cryptoKeyVersions/2", by decide +kernel⟩

-- The sample service answers with the descriptor of the first version, whatever it is asked for.
theorem foreign_descriptor_held :
    let key : SigningKey := ⟨secondVersion, samplePublicKey .ecSignEd25519⟩
    ((build (some secondVersion.text) true).hold (sampleService .ecSignEd25519) ()).result = .ok key ∧
      key.publicKey.name = KeyName.sampleVersion.text ∧ key.publicKey.name ≠ key.name.text ∧
      key.request [7] = .ok (key.dataRequest [7]) := by
  intro key
  have built : ((build (some secondVersion.text) true).hold (sampleService .ecSignEd25519) ()).result = .ok key := by
    apply (build_ok_iff _ _ key).mpr
    exact ⟨rfl, rfl, rfl, nofun⟩
  exact ⟨built, rfl, by decide, rfl⟩

end SigningKey
end KeyCustody
