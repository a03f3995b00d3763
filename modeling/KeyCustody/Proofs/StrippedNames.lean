import KeyCustody.Proofs.GrammarSegments

set_option autoImplicit false

namespace KeyCustody

open KeyGrammar (pieces IsWord)

def owner (name : String) : String :=
  String.ofList (List.intercalate ['/'] ((List.splitOn '/' name.toList).take 8))

namespace KeyGrammar

theorem path_accepts_version_iff {name : String} (accepted : version.accepts name = true) :
    path.accepts name = true ↔ '\n' ∉ (List.splitOn '/' name.toList).getD 7 [] := by
  obtain ⟨a, b, c, d, e, cut, inProject, inLocation, inRing, -, inLine⟩ := split_version accepted
  rw [segment_describes_iff] at inProject inLocation inRing
  rw [line_describes_iff] at inLine
  have tail : List.intercalate ['/'] ((List.splitOn '/' name.toList).drop 7) =
      d ++ '/' :: ("cryptoKeyVersions".toList ++ '/' :: e) := by
    calc List.intercalate ['/'] ((List.splitOn '/' name.toList).drop 7)
        = List.intercalate ['/'] (d :: "cryptoKeyVersions".toList :: List.splitOn '/' e) := by
          rw [cut]
          rfl
      _ = d ++ '/' :: ("cryptoKeyVersions".toList ++ '/' :: e) := by
          rw [List.intercalate_cons_cons, List.intercalate_cons_of_ne_nil (List.splitOn_ne_nil _ e),
            List.intercalate_splitOn]
          simp only [List.append_assoc, List.singleton_append]
  -- Behind the key's own segment there is a newline neither in what is fixed nor in the last run.
  have only : '\n' ∉ List.intercalate ['/'] ((List.splitOn '/' name.toList).drop 7) ↔ '\n' ∉ d := by
    rw [tail]
    simp [inLine]
  have shaped := accepts_iff_shaped path name
  rw [Shaped, only] at shaped
  rw [shaped, cut]
  constructor
  · rintro ⟨-, -, -, free⟩
    exact free
  · intro free
    refine ⟨marked_pieces_append a b c d _, by simp [pieces], ?_, free⟩
    simpa [pieces] using ⟨inProject.1, inLocation.1, inRing.1⟩

end KeyGrammar

theorem owner_of_cut {name : String} {a b c d : List Char} {rest : List (List Char)}
    (cut : List.splitOn '/' name.toList = pieces a b c d ++ rest) :
    owner name = String.ofList (List.intercalate ['/'] (pieces a b c d)) := by
  rw [owner, cut]
  rfl

theorem split_owner (name : String) :
    List.splitOn '/' (owner name).toList = (List.splitOn '/' name.toList).take 8 := by
  rw [owner, String.toList_ofList]
  apply List.splitOn_intercalate
  · intro piece listed
    exact Pieces.separator_free _ piece (List.mem_of_mem_take listed)
  · intro none
    rcases List.take_eq_nil_iff.mp none with zero | empty
    · cases zero
    · exact List.splitOn_ne_nil _ _ empty

theorem version_names_stripped (name : KeyName .version) :
    let segments := List.splitOn '/' name.text.toList
    (KeyGrammar.path.accepts name.text = true ↔ '\n' ∉ segments.getD 7 []) ∧
    withoutVersion name.text = (if segments.length = 10 then owner name.text else name.text) ∧
    owner name.text ≠ name.text := by
  intro segments
  obtain ⟨a, b, c, d, e, cut, -⟩ := KeyGrammar.split_version name.accepted
  refine ⟨KeyGrammar.path_accepts_version_iff name.accepted, ?_, ?_⟩
  · by_cases ten : segments.length = 10
    · obtain ⟨version, last⟩ : ∃ version, List.splitOn '/' e = [version] := by
        apply List.length_eq_one_iff.mp
        simpa [segments, cut, pieces] using ten
      rw [last] at cut
      rw [if_pos ten, without_version_of_ten cut, owner_of_cut cut]
    · rw [if_neg ten, without_version_of_length ten]
  · intro same
    have short := congrArg List.length (split_owner name.text)
    rw [same] at short
    simp [cut, pieces] at short

theorem deep_version_not_stripped :
    let deep := "projects/p/locations/l/keyRings/r/cryptoKeys/k/cryptoKeyVersions/1/2"
    let broken := "projects/p/locations/l/keyRings/r/cryptoKeys/a\n/cryptoKeyVersions/1"
    (KeyGrammar.version.accepts deep = true ∧
      owner deep = "projects/p/locations/l/keyRings/r/cryptoKeys/k" ∧
      withoutVersion deep = deep ∧ withoutVersion deep ≠ owner deep) ∧
    KeyGrammar.version.accepts broken = true ∧ KeyGrammar.path.accepts broken = false := by
  decide +kernel

namespace KeyReference

structure SlashFree (reference : KeyReference) : Prop where
  project : '/' ∉ reference.project.toList
  location : '/' ∉ reference.location.toList
  keyRing : '/' ∉ reference.keyRing.toList
  key : '/' ∉ reference.key.toList

def segments (reference : KeyReference) : List (List Char) :=
  pieces reference.project.toList reference.location.toList reference.keyRing.toList
    reference.key.toList

theorem to_list_name (reference : KeyReference) :
    reference.name.toList = List.intercalate ['/'] reference.segments := by
  rw [segments, KeyGrammar.join_pieces]
  delta name
  simp

theorem split_name {reference : KeyReference} (free : reference.SlashFree) :
    List.splitOn '/' reference.name.toList = reference.segments := by
  rw [to_list_name]
  apply List.splitOn_intercalate _ _ (by simp [segments, pieces])
  simp [segments, pieces, free.project, free.location, free.keyRing, free.key]

theorem slash_free_iff (reference : KeyReference) :
    reference.SlashFree ↔ (List.splitOn '/' reference.name.toList).length = 8 := by
  constructor
  · intro free
    rw [split_name free]
    rfl
  · intro eight
    rw [Pieces.length_split, to_list_name, segments, KeyGrammar.join_pieces] at eight
    have projects : "projects/".toList.count '/' = 1 := by decide
    have locations : "/locations/".toList.count '/' = 2 := by decide
    have keyRings : "/keyRings/".toList.count '/' = 2 := by decide
    have cryptoKeys : "/cryptoKeys/".toList.count '/' = 2 := by decide
    -- Seven of the slashes are fixed, so the parts have none.
    simp only [List.count_append, projects, locations, keyRings, cryptoKeys] at eight
    constructor
    all_goals
      apply List.count_eq_zero.mp
      omega

theorem split_version_name (reference : KeyReference) (version : UInt64) :
    List.splitOn '/' (reference.versionName version).toList =
      List.splitOn '/' reference.name.toList ++
        ["cryptoKeyVersions".toList, Nat.toDigits 10 version.toNat] := by
  have digits : '/' ∉ Nat.toDigits 10 version.toNat := (Decimal.Digits.ofNat _).free _ rfl
  have text : (reference.versionName version).toList = reference.name.toList ++
      '/' :: ("cryptoKeyVersions".toList ++ '/' :: Nat.toDigits 10 version.toNat) := by
    simp [versionName]
  rw [text, List.splitOn_append_cons_self, List.splitOn_append_cons_self_of_not_mem (by decide),
    List.splitOn_eq_singleton digits]

theorem key_accepts_iff (reference : KeyReference) :
    KeyGrammar.key.accepts reference.name = true ↔
      reference.project ≠ "" ∧ '/' ∉ reference.project.toList ∧ IsWord reference.location.toList ∧
        IsWord reference.keyRing.toList ∧ IsWord reference.key.toList := by
  constructor
  · intro accepted
    obtain ⟨-, eight, project, words⟩ := (KeyGrammar.key_accepts_iff_shaped _).mp accepted
    have free := reference.slash_free_iff.mpr eight
    rw [split_name free] at project words
    refine ⟨?_, free.project, words 3 (by simp), words 5 (by simp), words 7 (by simp)⟩
    rintro empty
    rw [segments, empty] at project
    exact project rfl
  · rintro ⟨some, free, location, keyRing, key⟩
    simp only [← KeyGrammar.word_describes_iff] at location keyRing key
    have project := (KeyGrammar.segment_describes_iff _).mpr
      ⟨fun empty => some (String.toList_eq_nil_iff.mp empty), free⟩
    exact (KeyGrammar.accepts_key_iff _).mpr
      ⟨_, _, _, _, reference.to_list_name, project, location, keyRing, key⟩

theorem without_version_free {reference : KeyReference} (free : reference.SlashFree)
    (version : UInt64) : withoutVersion (reference.versionName version) = reference.name := by
  have ten := reference.split_version_name version
  rw [split_name free] at ten
  rw [without_version_of_ten ten, ← segments, ← to_list_name, String.ofList_toList]

theorem without_version_slashed {reference : KeyReference} (slashed : ¬reference.SlashFree)
    (version : UInt64) :
    withoutVersion (reference.versionName version) = reference.versionName version := by
  apply without_version_of_length
  rw [split_version_name]
  intro ten
  apply slashed
  apply reference.slash_free_iff.mpr
  simpa using ten

theorem version_name_ne (reference : KeyReference) (version : UInt64) :
    reference.versionName version ≠ reference.name := by
  intro same
  have lengths := congrArg List.length (reference.split_version_name version)
  rw [same] at lengths
  simp at lengths

theorem version_name_injective {one other : KeyReference} (oneFree : one.SlashFree)
    (otherFree : other.SlashFree) {v w : UInt64} (same : one.versionName v = other.versionName w) :
    one = other ∧ v = w := by
  have cut := one.split_version_name v
  rw [same, other.split_version_name w, split_name oneFree, split_name otherFree] at cut
  simp only [segments, pieces, List.cons_append, List.nil_append, List.cons.injEq, and_true,
    true_and, String.toList_inj] at cut
  obtain ⟨project, location, keyRing, key, digits⟩ := cut
  constructor
  · cases one
    cases other
    simp only [KeyReference.mk.injEq]
    exact ⟨project.symm, location.symm, keyRing.symm, key.symm⟩
  · have value := congrArg Decimal.natural? digits
    rw [Decimal.natural_of_nat, Decimal.natural_of_nat] at value
    exact UInt64.toNat_inj.mp (Option.some.inj value).symm

theorem composed_names :
    (∀ reference : KeyReference,
      KeyGrammar.key.accepts reference.name = true ↔
        reference.project ≠ "" ∧ '/' ∉ reference.project.toList ∧ IsWord reference.location.toList ∧
          IsWord reference.keyRing.toList ∧ IsWord reference.key.toList) ∧
    (∀ (reference : KeyReference) (version : UInt64),
      (withoutVersion (reference.versionName version) = reference.name ↔ reference.SlashFree) ∧
      (withoutVersion (reference.versionName version) = reference.versionName version ↔
        ¬reference.SlashFree)) ∧
    Function.Injective fun named : { reference : KeyReference // reference.SlashFree } × UInt64 =>
      named.1.val.versionName named.2 := by
  refine ⟨key_accepts_iff, fun reference version => ?_, ?_⟩
  · have differ := reference.version_name_ne version
    by_cases free : reference.SlashFree
    · rw [without_version_free free version]
      exact ⟨iff_of_true rfl free, iff_of_false differ.symm (not_not_intro free)⟩
    · rw [without_version_slashed free version]
      exact ⟨iff_of_false differ free, iff_of_true rfl free⟩
  · rintro ⟨⟨one, oneFree⟩, v⟩ ⟨⟨other, otherFree⟩, w⟩ same
    obtain ⟨rfl, rfl⟩ := version_name_injective oneFree otherFree same
    rfl

end KeyReference

end KeyCustody
