import KeyCustody.Proofs.DoubleRoundTrip

set_option autoImplicit false

namespace KeyCustody

namespace KeyName

def versioned (name version : String) : String :=
  name ++ "/cryptoKeyVersions/" ++ version

theorem to_list_versioned (name version : String) :
    (versioned name version).toList =
      name.toList ++ '/' :: ("cryptoKeyVersions".toList ++ '/' :: version.toList) := by
  simp [versioned]

def GoesBy (name : KeyName .key) (used : String) : Prop :=
  used = name.text ∨ ∃ version : String, '/' ∉ version.toList ∧ used = versioned name.text version

end KeyName

open KeyName (versioned)

namespace KeyGrammar

theorem accepts_version_iff (name : String) :
    version.accepts name = true ↔ ∃ a b c d e,
      name.toList = List.intercalate ['/'] (pieces a b c d) ++ ("/cryptoKeyVersions/".toList ++ e) ∧
      segment.Describes a ∧ segment.Describes b ∧ segment.Describes c ∧ segment.Describes d ∧
      line.Describes e := by
  have cut := describes_pieces_append_iff segment segment segment segment
    (fixed "/cryptoKeyVersions/" ++ [line]) name.toList
  rw [← List.append_assoc] at cut
  rw [accepts, Rule.accepts_iff]
  refine cut.trans ?_
  simp only [Rule.describes_fixed_append, Rule.describes_run]
  constructor
  · intro parts
    obtain ⟨a, b, c, d, _, text, inProject, inLocation, inRing, inKey, e, rfl, inLine⟩ := parts
    exact ⟨a, b, c, d, e, text, inProject, inLocation, inRing, inKey, inLine⟩
  · intro parts
    obtain ⟨a, b, c, d, e, text, inProject, inLocation, inRing, inKey, inLine⟩ := parts
    exact ⟨a, b, c, d, _, text, inProject, inLocation, inRing, inKey, e, rfl, inLine⟩

theorem split_version {name : String} (accepted : version.accepts name = true) :
    ∃ a b c d e,
      List.splitOn '/' name.toList = pieces a b c d ++ "cryptoKeyVersions".toList :: List.splitOn '/' e ∧
      segment.Describes a ∧ segment.Describes b ∧ segment.Describes c ∧ segment.Describes d ∧
      line.Describes e := by
  obtain ⟨a, b, c, d, e, text, inProject, inLocation, inRing, inKey, inLine⟩ :=
    (accepts_version_iff name).mp accepted
  have suffix : "/cryptoKeyVersions/".toList ++ e = '/' :: ("cryptoKeyVersions".toList ++ '/' :: e) := by
    simp
  refine ⟨a, b, c, d, e, ?_, inProject, inLocation, inRing, inKey, inLine⟩
  rw [text, suffix, List.splitOn_append_cons_self, split_pieces inProject inLocation inRing inKey,
    List.splitOn_append_cons_self_of_not_mem (by decide)]

section

variable {name : String} (accepted : key.accepts name = true)

include accepted

theorem version_rejects_key : version.accepts name = false := by
  obtain ⟨a, b, c, d, eight⟩ := split_key accepted
  apply eq_false_of_ne_true
  intro alsoVersion
  obtain ⟨a', b', c', d', e, more, -⟩ := split_version alsoVersion
  have lengths := congrArg List.length (eight.symm.trans more)
  simp [pieces] at lengths

theorem split_versioned (version : String) :
    ∃ a b c d, List.splitOn '/' name.toList = pieces a b c d ∧
      List.splitOn '/' (versioned name version).toList =
        pieces a b c d ++ "cryptoKeyVersions".toList :: List.splitOn '/' version.toList := by
  obtain ⟨a, b, c, d, eight⟩ := split_key accepted
  refine ⟨a, b, c, d, eight, ?_⟩
  rw [KeyName.to_list_versioned, List.splitOn_append_cons_self, eight,
    List.splitOn_append_cons_self_of_not_mem (by decide)]

theorem key_rejects_versioned (version : String) : key.accepts (versioned name version) = false := by
  obtain ⟨a, b, c, d, -, more⟩ := split_versioned accepted version
  apply eq_false_of_ne_true
  intro alsoKey
  obtain ⟨a', b', c', d', eight⟩ := split_key alsoKey
  have lengths := congrArg List.length (eight.symm.trans more)
  simp [pieces] at lengths

theorem version_accepts_versioned {version : String} (inLine : '\n' ∉ version.toList) :
    KeyGrammar.version.accepts (versioned name version) = true := by
  obtain ⟨a, b, c, d, text, inProject, inLocation, inRing, inKey⟩ := (accepts_key_iff name).mp accepted
  apply (accepts_version_iff _).mpr
  refine ⟨a, b, c, d, version.toList, ?_, inProject, word_is_segment inLocation, word_is_segment inRing,
    word_is_segment inKey, (line_describes_iff _).mpr inLine⟩
  rw [KeyName.to_list_versioned, text]
  simp

theorem path_accepts_versioned {version : String} (inLine : '\n' ∉ version.toList) :
    path.accepts (versioned name version) = true := by
  obtain ⟨a, b, c, d, text, inProject, inLocation, inRing, inKey⟩ := (accepts_key_iff name).mp accepted
  apply (accepts_path_iff _).mpr
  -- All that follows the key is part of the last run of this grammar.
  refine ⟨a, b, c, d ++ ("/cryptoKeyVersions/".toList ++ version.toList), ?_, inProject,
    word_is_segment inLocation, word_is_segment inRing, (line_describes_iff _).mpr ?_⟩
  · rw [KeyName.to_list_versioned, text, join_pieces, join_pieces]
    simp
  · have key := (line_describes_iff d).mp (word_is_line inKey)
    simp [key, inLine]

end

end KeyGrammar

theorem without_version_versioned {name version : String} (accepted : KeyGrammar.key.accepts name = true)
    (free : '/' ∉ version.toList) : withoutVersion (versioned name version) = name := by
  obtain ⟨a, b, c, d, eight, ten⟩ := KeyGrammar.split_versioned accepted version
  rw [List.splitOn_eq_singleton free] at ten
  rw [without_version_of_ten ten, ← eight, List.intercalate_splitOn, String.ofList_toList]

theorem same_or_versioned (name : String) :
    withoutVersion name = name ∨
      ∃ version : String, '/' ∉ version.toList ∧ name = versioned (withoutVersion name) version := by
  generalize taken : withoutVersion name = front
  unfold withoutVersion at taken
  split at taken
  · rename_i projects project locations location keyRings keyRing cryptoKeys key versions version ten
    split at taken
    · rename_i markers
      obtain ⟨rfl, rfl, rfl, rfl, rfl⟩ := markers
      have free : '/' ∉ version := Pieces.separator_free name.toList version (by rw [ten]; simp)
      refine .inr ⟨String.ofList version, by rwa [String.toList_ofList], ?_⟩
      apply String.toList_inj.mp
      have whole : List.intercalate ['/'] (List.splitOn '/' name.toList) = name.toList :=
        List.intercalate_splitOn '/'
      have last : List.intercalate ['/'] ["cryptoKeyVersions".toList, version] =
          "cryptoKeyVersions".toList ++ '/' :: version := by
        simp [List.intercalate]
      calc name.toList
          = List.intercalate ['/'] (KeyGrammar.pieces project location keyRing key ++
              ["cryptoKeyVersions".toList, version]) := by
            rw [← whole, ten]
            rfl
        _ = (versioned front (String.ofList version)).toList := by
            rw [Pieces.intercalate_append (by simp [KeyGrammar.pieces]) (List.cons_ne_nil _ _), last,
              KeyName.to_list_versioned, ← taken]
            simp only [String.toList_ofList, KeyGrammar.pieces]
    · exact .inl taken.symm
  · exact .inl taken.symm

theorem without_version_eq_iff (name : KeyName .key) (used : String) :
    withoutVersion used = name.text ↔ name.GoesBy used := by
  constructor
  · intro taken
    rcases same_or_versioned used with same | ⟨version, free, versioned⟩
    · exact .inl (same.symm.trans taken)
    · rw [taken] at versioned
      exact .inr ⟨version, free, versioned⟩
  · intro own
    rcases own with rfl | ⟨version, free, rfl⟩
    · exact without_version_of_key name.accepted
    · exact without_version_versioned name.accepted free

namespace EncryptionKey

inductive Refuses (key : EncryptionKey) (reply : EncryptReply) : Failure → Prop where
  | otherKey (name : withoutVersion reply.name ≠ key.name.text) :
      Refuses key reply (.otherKey key.name.text reply.name)
  | notVerified (name : withoutVersion reply.name = key.name.text) (field : Field) :
      Refuses key reply (.notVerified field)
  | checksum (name : withoutVersion reply.name = key.name.text) (mismatch : Checksum.Mismatch) :
      Refuses key reply (.checksum mismatch)

theorem accept_encrypted_refuses {key : EncryptionKey} {reply : EncryptReply} {failure : Failure}
    (refused : key.acceptEncrypted reply = .error failure) : key.Refuses reply failure := by
  unfold acceptEncrypted at refused
  by_cases name : withoutVersion reply.name = key.name.text
  · rw [if_neg fun other => other name] at refused
    split at refused
    · cases refused
      exact .notVerified name .plaintext
    split at refused
    · cases refused
      exact .notVerified name .associatedData
    obtain ⟨-, rfl⟩ := (expect_received_error_iff _ _ _ _).mp refused
    exact .checksum name _
  · rw [if_pos name] at refused
    cases refused
    exact .otherKey name

theorem refused_as_other_iff (key : EncryptionKey) (reply : EncryptReply) (expected actual : String) :
    key.acceptEncrypted reply = .error (.otherKey expected actual) ↔
      expected = key.name.text ∧ actual = reply.name ∧ ¬key.name.GoesBy reply.name := by
  rw [← without_version_eq_iff]
  constructor
  · intro refused
    cases accept_encrypted_refuses refused with
    | otherKey name => exact ⟨rfl, rfl, name⟩
  · intro other
    obtain ⟨rfl, rfl, name⟩ := other
    exact if_pos name

theorem refused_without_cause {key : EncryptionKey} {verb : Verb} {reply : CallReply verb}
    {failure : Failure} (refused : key.accept verb reply = .error failure) : failure.cause? = none := by
  cases verb with
  | encrypt => cases accept_encrypted_refuses refused <;> rfl
  | decrypt =>
      obtain ⟨-, rfl⟩ := (expect_received_error_iff _ _ _ _).mp refused
      rfl

theorem names_that_pass (name : KeyName .key) :
    (∀ used, withoutVersion used = name.text ↔ name.GoesBy used) ∧
    (∀ {σ : Type} (link : Link) (far : FarSide callSurface σ) (state : σ)
      (plaintext associatedData : Bytes) (reply : EncryptReply),
      let key : EncryptionKey := ⟨name, link⟩
      (far ⟨.encrypt, key.call .encrypt plaintext associatedData⟩ state).1 = .ok reply →
      ∀ expected actual,
        ((key.encrypt plaintext associatedData).hold far state).result =
            .error (.otherKey expected actual) ↔
          expected = name.text ∧ actual = reply.name ∧ ¬name.GoesBy reply.name) ∧
    ∀ (other : KeyName .key) (used : String), name.GoesBy used → other.GoesBy used → name = other := by
  refine ⟨without_version_eq_iff name, ?_, ?_⟩
  · intro σ link far state plaintext associatedData reply key answered expected actual
    have concluded : ((key.encrypt plaintext associatedData).hold far state).result =
        key.acceptEncrypted reply := by
      simp only [encrypt, perform, Dialogue.hold]
      rw [answered]
      rfl
    rw [concluded]
    exact key.refused_as_other_iff reply expected actual
  · intro other used own others
    have first := (without_version_eq_iff name used).mpr own
    have second := (without_version_eq_iff other used).mpr others
    exact KeyName.eq_of_text (first.symm.trans second)

theorem answer_fails {double : ServiceDouble} {nonce : Nonce} (name : KeyName .key) {verb : Verb}
    {request : Wire.Request verb} {failure : ServiceFailure}
    (refused : double.answer nonce ⟨verb, name.text, request⟩ = .error failure) :
    double.Fails name.text failure := by
  simp only [ServiceDouble.answer, ServiceDouble.prepare_key] at refused
  exact ServiceDouble.execute_fails refused

theorem reply_named {double : ServiceDouble} {nonce : Nonce} {name : String}
    {request : Wire.Request .encrypt} {response : Wire.EncryptResponse}
    (answered : double.answer nonce ⟨.encrypt, name, request⟩ = .ok response) :
    (Rest.encryptReply response).name = name := by
  have executed := ((ServiceDouble.answer_ok_iff _ _ _ _).mp answered).2
  obtain ⟨_, -, _, -, _, -, _, -, rfl⟩ := (ServiceDouble.encrypt_ok_iff _ _ _ _ _).mp executed
  rfl

section

variable (double : ServiceDouble) (draw : Nat → Nonce) (drawn : Nat) (name : KeyName .key) (use : Use)

theorem never_invalid_on_double (operation : Operation) (text : String) :
    (Turn.taken overRest (double.farSide draw) (name, use) drawn).answer ≠
      .error (.remote operation (.invalidArgument text)) := by
  rw [answer_on_double]
  intro refused
  cases answered : double.answer (draw drawn) ⟨use.verb, name.text,
      Rest.request ((⟨name, .rest⟩ : EncryptionKey).call use.verb use.payload use.associatedData)⟩ with
  | ok response =>
      rw [answered] at refused
      have caused := refused_without_cause refused
      cases caused
  | error failure =>
      rw [answered] at refused
      cases refused
      have fails := answer_fails name answered
      cases fails

theorem never_other_on_double (expected actual : String) :
    (Turn.taken overRest (double.farSide draw) (name, use) drawn).answer ≠
      .error (.otherKey expected actual) := by
  rw [answer_on_double]
  intro refused
  cases answered : double.answer (draw drawn) ⟨use.verb, name.text,
      Rest.request ((⟨name, .rest⟩ : EncryptionKey).call use.verb use.payload use.associatedData)⟩ with
  | error failure =>
      rw [answered] at refused
      cases refused
  | ok response =>
      rw [answered] at refused
      obtain ⟨verb, payload, associatedData⟩ := use
      cases verb with
      | decrypt =>
          obtain ⟨-, mismatch⟩ := (expect_received_error_iff _ _ _ _).mp refused
          cases mismatch
      | encrypt =>
          obtain ⟨-, -, foreign⟩ := (refused_as_other_iff _ _ _ _).mp refused
          exact foreign (.inl (reply_named answered))

end

theorem names_fit_together (name : KeyName .key) :
    KeyGrammar.path.accepts name.text = true ∧ KeyGrammar.version.accepts name.text = false ∧
    withoutVersion name.text = name.text ∧
    (∀ version : String, '/' ∉ version.toList → '\n' ∉ version.toList →
      let ofVersion := name.text ++ "/cryptoKeyVersions/" ++ version
      KeyGrammar.version.accepts ofVersion = true ∧ KeyGrammar.path.accepts ofVersion = true ∧
      KeyGrammar.key.accepts ofVersion = false ∧ withoutVersion ofVersion = name.text) ∧
    ∀ {α : Type} (entries : List (String × SecretKey)) (strict : Bool) (draw : Nat → Nonce)
      (drawn : Nat) (session : Dialogue surface α),
      ∀ turn ∈ session.turns overRest ((ServiceDouble.ofKeys entries strict).farSide draw) drawn,
        (∀ operation text, turn.answer ≠ .error (.remote operation (.invalidArgument text))) ∧
        ∀ expected actual, turn.answer ≠ .error (.otherKey expected actual) := by
  have accepted := name.accepted
  refine ⟨KeyGrammar.path_accepts_of_key accepted, KeyGrammar.version_rejects_key accepted,
    without_version_of_key accepted, ?_, ?_⟩
  · intro version free inLine ofVersion
    exact ⟨KeyGrammar.version_accepts_versioned accepted inLine,
      KeyGrammar.path_accepts_versioned accepted inLine,
      KeyGrammar.key_rejects_versioned accepted version, without_version_versioned accepted free⟩
  · intro α entries strict draw drawn session
    let double := ServiceDouble.ofKeys entries strict
    apply Dialogue.each_turn
    intro query state
    obtain ⟨user, use⟩ := query
    exact ⟨never_invalid_on_double double draw state user use,
      never_other_on_double double draw state user use⟩

end EncryptionKey
end KeyCustody
