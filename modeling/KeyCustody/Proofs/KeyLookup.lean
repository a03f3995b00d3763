import KeyCustody.Proofs.DoubleRoundTrip

set_option autoImplicit false

namespace KeyCustody.ServiceDouble

def Ascending (ids : List String) : Prop :=
  ids.Pairwise fun a b => Utf8.encode a.toList < Utf8.encode b.toList

theorem precedes_iff (a b : String) :
    precedes a b = true ↔ Utf8.encode a.toList < Utf8.encode b.toList :=
  decide_eq_true_iff

theorem follows_of_not_precedes {a b : String} (different : a ≠ b) (after : ¬precedes a b = true) :
    Utf8.encode b.toList < Utf8.encode a.toList := by
  obtain before | same | follows :=
    Std.lt_trichotomy (Utf8.encode a.toList) (Utf8.encode b.toList)
  · exact absurd ((precedes_iff a b).mpr before) after
  · exact absurd (String.toList_injective (Utf8.encode_injective same)) different
  · exact follows

section

variable {id other : String} {secret : SecretKey} {entries : List (String × SecretKey)}

theorem mem_insert : other ∈ (insert id secret entries).map Prod.fst ↔
    other = id ∨ other ∈ entries.map Prod.fst := by
  induction entries with
  | nil => simp [insert]
  | cons entry entries ih =>
      obtain ⟨next, nextSecret⟩ := entry
      rw [insert]
      by_cases same : id = next
      · simp [same]
      · by_cases before : precedes id next
        · simp [same, before]
        · rw [if_neg same, if_neg before, List.map_cons, List.mem_cons, ih, List.map_cons,
            List.mem_cons]
          exact or_left_comm

theorem insert_ascending (ascending : Ascending (entries.map Prod.fst)) :
    Ascending ((insert id secret entries).map Prod.fst) := by
  induction entries with
  | nil => exact List.pairwise_singleton _ _
  | cons entry entries ih =>
      obtain ⟨next, nextSecret⟩ := entry
      obtain ⟨above, rest⟩ := List.pairwise_cons.mp ascending
      rw [insert]
      by_cases same : id = next
      · rw [if_pos same]
        exact List.pairwise_cons.mpr ⟨same ▸ above, rest⟩
      · rw [if_neg same]
        by_cases before : precedes id next
        · rw [if_pos before]
          have first := (precedes_iff id next).mp before
          have afterwards (later : String) (listed : later ∈ entries.map Prod.fst) :=
            Std.lt_trans first (above later listed)
          exact List.pairwise_cons.mpr ⟨List.forall_mem_cons.mpr ⟨first, afterwards⟩, ascending⟩
        · rw [if_neg before]
          refine List.pairwise_cons.mpr ⟨?_, ih rest⟩
          intro later listed
          cases mem_insert.mp listed with
          | inl inserted => exact inserted ▸ follows_of_not_precedes same before
          | inr old => exact above later old

end

theorem eq_of_ascending {ids others : List String} (ascending : Ascending ids)
    (othersAscending : Ascending others) (same : ∀ id, id ∈ ids ↔ id ∈ others) : ids = others := by
  -- No ID precedes itself, so the same members make a permutation; only one order of it ascends.
  have distinct {ids : List String} (ascending : Ascending ids) : ids.Nodup := by
    apply ascending.imp
    intro a b before equal
    exact List.lt_irrefl _ (equal ▸ before)
  have permuted := (List.perm_ext_iff_of_nodup (distinct ascending)
    (distinct othersAscending)).mpr same
  apply permuted.eq_of_pairwise _ ascending othersAscending
  intro a b _ _ before after
  exact absurd (Std.lt_trans before after) (List.lt_irrefl _)

section

variable (entries : List (String × SecretKey)) (strict : Bool)

theorem key_ids_ascending : Ascending (ofKeys entries strict).keyIds := by
  -- From the back, each step of the induction is the insertion that came last.
  rw [keyIds, ofKeys, List.foldl_eq_foldr_reverse]
  induction entries.reverse with
  | nil => exact .nil
  | cons entry entries ih => exact insert_ascending ih

theorem mem_key_ids_of_keys (id : String) :
    id ∈ (ofKeys entries strict).keyIds ↔ id ∈ entries.map Prod.fst := by
  constructor
  · intro listed
    obtain ⟨secret, found⟩ := (mem_key_ids_iff _ id).mp listed
    rw [key_of_keys] at found
    obtain ⟨entry, entry_eq, -⟩ := Option.map_eq_some_iff.mp found
    have named : entry.1 = id := by simpa using List.find?_some entry_eq
    have member := List.mem_reverse.mp (List.mem_of_find?_eq_some entry_eq)
    exact List.mem_map.mpr ⟨entry, member, named⟩
  · intro listed
    obtain ⟨secret, known⟩ := known_key entries strict id listed
    exact (mem_key_ids_iff _ id).mpr ⟨secret, (key_ok_iff _ _ _).mp known⟩

theorem key_ids_eq_iff (others : List (String × SecretKey)) (otherStrict : Bool) :
    (ofKeys others otherStrict).keyIds = (ofKeys entries strict).keyIds ↔
      ∀ id, id ∈ others.map Prod.fst ↔ id ∈ entries.map Prod.fst := by
  simp only [← mem_key_ids_of_keys others otherStrict, ← mem_key_ids_of_keys entries strict]
  constructor
  · intro same id
    rw [same]
  · exact eq_of_ascending (key_ids_ascending others otherStrict) (key_ids_ascending entries strict)

end

def malformed (name : String) : ServiceFailure :=
  .invalidArgument ("parameter name must conform to the pattern " ++ KeyGrammar.path.written ++
    ", got " ++ Quoted.quote name)

theorem prepare_error_iff (name : String) (failure : ServiceFailure) :
    prepare name = .error failure ↔
      KeyGrammar.path.accepts name = false ∧ failure = malformed name := by
  unfold prepare malformed
  cases KeyGrammar.path.accepts name <;> simp [eq_comm]

section

variable (double : ServiceDouble) (nonce : Nonce) (query : Rest.Query)

theorem execute_unlisted (unlisted : query.name ∉ double.keyIds) :
    double.execute nonce query = .error (.unknownKey query.name double.keyIds) := by
  obtain ⟨verb, name, request⟩ := query
  have refused := (double.key_error_iff name _).mpr ⟨unlisted, rfl⟩
  cases verb with
  | encrypt => exact (bind_error_iff _ _ _).mpr (.inl refused)
  | decrypt =>
      have guarding : double.guarded name request = .error (.unknownKey name double.keyIds) :=
        (bind_error_iff _ _ _).mpr (.inl refused)
      rw [execute, decrypt_eq]
      exact (bind_error_iff _ _ _).mpr (.inl guarding)

theorem execute_unknown_iff (name : String) (known : List String) :
    double.execute nonce query = .error (.unknownKey name known) ↔
      query.name ∉ double.keyIds ∧ name = query.name ∧ known = double.keyIds := by
  constructor
  · intro refused
    cases execute_fails refused with
    | unknownKey unlisted => exact ⟨unlisted, rfl, rfl⟩
  · intro unknown
    obtain ⟨unlisted, rfl, rfl⟩ := unknown
    exact double.execute_unlisted nonce query unlisted

theorem execute_never_invalid (text : String) :
    double.execute nonce query ≠ .error (.invalidArgument text) := by
  intro refused
  cases execute_fails refused

theorem answer_error_iff (failure : ServiceFailure) :
    double.answer nonce query = .error failure ↔
      prepare query.name = .error failure ∨
        KeyGrammar.path.accepts query.name = true ∧ double.execute nonce query = .error failure := by
  unfold answer prepare
  cases KeyGrammar.path.accepts query.name <;> simp

end

theorem names_looked_up (entries : List (String × SecretKey)) (strict : Bool) :
    let double := ofKeys entries strict
    Ascending double.keyIds ∧
    (∀ id, id ∈ double.keyIds ↔ id ∈ entries.map Prod.fst) ∧
    (∀ others otherStrict, (ofKeys others otherStrict).keyIds = double.keyIds ↔
      ∀ id, id ∈ others.map Prod.fst ↔ id ∈ entries.map Prod.fst) ∧
    ∀ (nonce : Nonce) (query : Rest.Query),
      (∀ failure, prepare query.name = .error failure ↔
        KeyGrammar.path.accepts query.name = false ∧ failure = malformed query.name) ∧
      (∀ name known, double.execute nonce query = .error (.unknownKey name known) ↔
        query.name ∉ entries.map Prod.fst ∧ name = query.name ∧ known = double.keyIds) ∧
      (∀ text, double.answer nonce query = .error (.invalidArgument text) ↔
        KeyGrammar.path.accepts query.name = false ∧ .invalidArgument text = malformed query.name) ∧
      (∀ name known, double.answer nonce query = .error (.unknownKey name known) ↔
        KeyGrammar.path.accepts query.name = true ∧ query.name ∉ entries.map Prod.fst ∧
          name = query.name ∧ known = double.keyIds) := by
  intro double
  have listed := mem_key_ids_of_keys entries strict
  refine ⟨key_ids_ascending entries strict, listed, key_ids_eq_iff entries strict, ?_⟩
  intro nonce query
  have unknown (name : String) (known : List String) :
      double.execute nonce query = .error (.unknownKey name known) ↔
        query.name ∉ entries.map Prod.fst ∧ name = query.name ∧ known = double.keyIds := by
    rw [execute_unknown_iff, listed]
  refine ⟨prepare_error_iff query.name, unknown, ?_, ?_⟩
  · intro text
    simp [answer_error_iff, prepare_error_iff, execute_never_invalid]
  · intro name known
    simp [answer_error_iff, prepare_error_iff, malformed, unknown]

end KeyCustody.ServiceDouble
