import KeyCustody.Proofs.ExpressionText
import KeyCustody.Proofs.VersionNames

set_option autoImplicit false

namespace KeyCustody.KeyGrammar

def keyMarkers : List String :=
  ["projects", "locations", "keyRings", "cryptoKeys"]

def markers : KeyGrammar → List String
  | version => keyMarkers ++ ["cryptoKeyVersions"]
  | _ => keyMarkers

def Marked (markers : List String) (segments : List (List Char)) : Prop :=
  ∀ place marker, markers[place]? = some marker → segments[2 * place]? = some marker.toList

def IsWordChar (c : Char) : Prop :=
  ('a' ≤ c ∧ c ≤ 'z') ∨ ('A' ≤ c ∧ c ≤ 'Z') ∨ ('0' ≤ c ∧ c ≤ '9') ∨ c = '_' ∨ c = '-'

def IsWord (s : List Char) : Prop :=
  1 ≤ s.length ∧ s.length ≤ 63 ∧ ∀ c ∈ s, IsWordChar c

def Shaped (grammar : KeyGrammar) (segments : List (List Char)) : Prop :=
  Marked grammar.markers segments ∧
    match grammar with
    | key =>
        segments.length = 8 ∧ segments.getD 1 [] ≠ [] ∧
          ∀ place ∈ [3, 5, 7], IsWord (segments.getD place [])
    | version =>
        10 ≤ segments.length ∧ (∀ place ∈ [1, 3, 5, 7], segments.getD place [] ≠ []) ∧
          '\n' ∉ List.intercalate ['/'] (segments.drop 9)
    | path =>
        8 ≤ segments.length ∧ (∀ place ∈ [1, 3, 5], segments.getD place [] ≠ []) ∧
          '\n' ∉ List.intercalate ['/'] (segments.drop 7)

theorem is_word_char_iff (c : Char) : CharClass.isWord c = true ↔ IsWordChar c := by
  have set := CharClass.has_set .word c
  rw [CharClass.has] at set
  rw [← set]
  simp [CharClass.set, CharSet.has, IsWordChar, CharSet.within_single]

theorem word_describes_iff (s : List Char) : word.Describes s ↔ IsWord s := by
  simp only [Run.Describes, word, CharClass.has, is_word_char_iff, IsWord]
  simp

theorem marked_append {markers more : List String} {front back : List (List Char)}
    (marked : Marked markers front) (even : front.length = 2 * markers.length)
    (others : Marked more back) : Marked (markers ++ more) (front ++ back) := by
  intro place marker listed
  rcases Nat.lt_or_ge place markers.length with inside | beyond
  · rw [List.getElem?_append_left inside] at listed
    rw [List.getElem?_append_left (by omega)]
    exact marked place marker listed
  · rw [List.getElem?_append_right beyond] at listed
    have distance : 2 * place - front.length = 2 * (place - markers.length) := by omega
    rw [List.getElem?_append_right (by omega), distance]
    exact others _ marker listed

theorem marked_of_more {markers more : List String} {segments : List (List Char)}
    (marked : Marked (markers ++ more) segments) : Marked markers segments := by
  intro place marker listed
  obtain ⟨inside, -⟩ := List.getElem?_eq_some_iff.mp listed
  exact marked place marker (List.getElem?_append_left inside ▸ listed)

theorem marked_pieces (a b c d : List Char) : Marked keyMarkers (pieces a b c d) := by
  intro place marker listed
  match place with
  | 0 | 1 | 2 | 3 =>
      cases listed
      rfl
  | place + 4 => cases listed

theorem marked_pieces_append (a b c d : List Char) (rest : List (List Char)) :
    Marked keyMarkers (pieces a b c d ++ rest) :=
  List.append_nil keyMarkers ▸ marked_append (marked_pieces a b c d) rfl nofun

theorem marked_single (marker : String) (rest : List (List Char)) :
    Marked [marker] (marker.toList :: rest) := by
  intro place other listed
  match place with
  | 0 =>
      cases listed
      rfl
  | place + 1 => cases listed

theorem pieces_of_marked {segments : List (List Char)} (enough : 8 ≤ segments.length)
    (marked : Marked keyMarkers segments) :
    ∃ a b c d rest, segments = pieces a b c d ++ rest := by
  match segments, enough with
  | s0 :: a :: s2 :: b :: s4 :: c :: s6 :: d :: rest, _ =>
      have first := Option.some.inj (marked 0 "projects" rfl)
      have second := Option.some.inj (marked 1 "locations" rfl)
      have third := Option.some.inj (marked 2 "keyRings" rfl)
      have fourth := Option.some.inj (marked 3 "cryptoKeys" rfl)
      subst first second third fourth
      exact ⟨a, b, c, d, rest, rfl⟩

theorem join_pieces_append (a b c d : List Char) (rest : List (List Char)) :
    List.intercalate ['/'] (pieces a b c d ++ rest) =
      List.intercalate ['/'] (pieces a b c (List.intercalate ['/'] (d :: rest))) := by
  have front : pieces a b c d ++ rest =
      ["projects".toList, a, "locations".toList, b, "keyRings".toList, c, "cryptoKeys".toList] ++
        d :: rest := rfl
  have last : pieces a b c (List.intercalate ['/'] (d :: rest)) =
      ["projects".toList, a, "locations".toList, b, "keyRings".toList, c, "cryptoKeys".toList] ++
        [List.intercalate ['/'] (d :: rest)] := rfl
  rw [front, last, Pieces.intercalate_append (List.cons_ne_nil _ _) (List.cons_ne_nil _ _),
    Pieces.intercalate_append (List.cons_ne_nil _ _) (List.cons_ne_nil _ _)]
  simp [List.intercalate]

-- The pieces of a text are free of slashes, so those that are fixed are the markers and the others
-- may be any.
theorem split_marked {name : String} (enough : 8 ≤ (List.splitOn '/' name.toList).length)
    (marked : Marked keyMarkers (List.splitOn '/' name.toList)) :
    ∃ a b c d rest, List.splitOn '/' name.toList = pieces a b c d ++ rest ∧
      name.toList = List.intercalate ['/'] (pieces a b c d ++ rest) ∧
      '/' ∉ a ∧ '/' ∉ b ∧ '/' ∉ c ∧ '/' ∉ d := by
  obtain ⟨a, b, c, d, rest, cut⟩ := pieces_of_marked enough marked
  have free : ∀ piece ∈ List.splitOn '/' name.toList, '/' ∉ piece := Pieces.separator_free _
  rw [cut] at free
  refine ⟨a, b, c, d, rest, cut, ?_, free a ?_, free b ?_, free c ?_, free d ?_⟩
  · rw [← cut, List.intercalate_splitOn]
  all_goals simp [pieces]

theorem key_accepts_iff_shaped (name : String) :
    key.accepts name = true ↔ key.Shaped (List.splitOn '/' name.toList) := by
  rw [accepts_key_iff]
  constructor
  · rintro ⟨a, b, c, d, text, inProject, inLocation, inRing, inKey⟩
    have eight := split_pieces inProject (word_is_segment inLocation) (word_is_segment inRing)
      (word_is_segment inKey)
    rw [segment_describes_iff] at inProject
    rw [word_describes_iff] at inLocation inRing inKey
    rw [text, eight]
    refine ⟨marked_pieces a b c d, rfl, inProject.1, ?_⟩
    simpa [pieces] using ⟨inLocation, inRing, inKey⟩
  · rintro ⟨marked, eight, project, words⟩
    obtain ⟨a, b, c, d, rest, cut, text, inProject, -⟩ :=
      split_marked (Nat.le_of_eq eight.symm) marked
    rw [cut] at eight project words
    obtain rfl : rest = [] := by simpa [pieces] using eight
    rw [List.append_nil] at text
    simp only [segment_describes_iff, word_describes_iff]
    refine ⟨a, b, c, d, text, ⟨project, inProject⟩, words 3 ?_, words 5 ?_, words 7 ?_⟩
    all_goals simp

-- The last run of this grammar may hold slashes, and then it is several pieces.
theorem split_path {a b c d : List Char} (inProject : segment.Describes a)
    (inLocation : segment.Describes b) (inRing : segment.Describes c) :
    ∃ first rest, List.intercalate ['/'] (first :: rest) = d ∧
      List.splitOn '/' (List.intercalate ['/'] (pieces a b c d)) = pieces a b c first ++ rest := by
  have whole : List.intercalate ['/'] (List.splitOn '/' d) = d := List.intercalate_splitOn '/'
  have free : ∀ piece ∈ List.splitOn '/' d, '/' ∉ piece := Pieces.separator_free d
  cases cut : List.splitOn '/' d with
  | nil => exact absurd cut (List.splitOn_ne_nil _ d)
  | cons first rest =>
      rw [cut] at whole free
      refine ⟨first, rest, whole, ?_⟩
      rw [← whole, ← join_pieces_append]
      apply List.splitOn_intercalate _ _ (by simp [pieces])
      have project := segment_has_no_slash inProject
      have location := segment_has_no_slash inLocation
      have ring := segment_has_no_slash inRing
      simpa [pieces, project, location, ring] using free

theorem path_accepts_iff_shaped (name : String) :
    path.accepts name = true ↔ path.Shaped (List.splitOn '/' name.toList) := by
  rw [accepts_path_iff]
  constructor
  · rintro ⟨a, b, c, d, text, inProject, inLocation, inRing, inKey⟩
    obtain ⟨first, rest, whole, cut⟩ := split_path (d := d) inProject inLocation inRing
    rw [segment_describes_iff] at inProject inLocation inRing
    rw [line_describes_iff, ← whole] at inKey
    rw [text, cut]
    refine ⟨marked_pieces_append a b c first rest, by simp [pieces], ?_, inKey⟩
    simpa [pieces] using ⟨inProject.1, inLocation.1, inRing.1⟩
  · rintro ⟨marked, enough, some, last⟩
    obtain ⟨a, b, c, d, rest, cut, text, inProject, inLocation, inRing, -⟩ :=
      split_marked enough marked
    rw [cut] at some last
    rw [join_pieces_append] at text
    simp only [segment_describes_iff, line_describes_iff]
    refine ⟨a, b, c, List.intercalate ['/'] (d :: rest), text, ⟨some 1 ?_, inProject⟩, ⟨some 3 ?_, inLocation⟩,
      ⟨some 5 ?_, inRing⟩, last⟩
    all_goals simp

theorem version_accepts_iff_shaped (name : String) :
    version.accepts name = true ↔ version.Shaped (List.splitOn '/' name.toList) := by
  constructor
  · intro accepted
    obtain ⟨a, b, c, d, e, cut, inProject, inLocation, inRing, inKey, inLine⟩ :=
      split_version accepted
    have whole : List.intercalate ['/'] (List.splitOn '/' e) = e := List.intercalate_splitOn '/'
    rw [segment_describes_iff] at inProject inLocation inRing inKey
    rw [line_describes_iff, ← whole] at inLine
    rw [cut]
    refine ⟨marked_append (marked_pieces a b c d) rfl (marked_single _ _), ?_, ?_, inLine⟩
    · have more : 0 < (List.splitOn '/' e).length := List.length_pos_iff.mpr (List.splitOn_ne_nil _ e)
      simp [pieces]
      omega
    · simpa [pieces] using ⟨inProject.1, inLocation.1, inRing.1, inKey.1⟩
  · rintro ⟨marked, enough, some, last⟩
    obtain ⟨a, b, c, d, rest, cut, text, inProject, inLocation, inRing, inKey⟩ :=
      split_marked (Nat.le_trans (by decide) enough) (marked_of_more marked)
    have versions := marked 4 "cryptoKeyVersions" rfl
    rw [cut] at enough some last versions
    obtain ⟨first, more, rfl⟩ : ∃ first more, rest = "cryptoKeyVersions".toList :: first :: more := by
      rcases rest with _ | ⟨fifth, _ | ⟨first, more⟩⟩
      · simp [pieces] at enough
      · simp [pieces] at enough
      · obtain rfl : fifth = _ := Option.some.inj versions
        exact ⟨first, more, rfl⟩
    simp only [accepts_version_iff, segment_describes_iff, line_describes_iff]
    refine ⟨a, b, c, d, List.intercalate ['/'] (first :: more), ?_, ⟨some 1 ?_, inProject⟩,
      ⟨some 3 ?_, inLocation⟩, ⟨some 5 ?_, inRing⟩, ⟨some 7 ?_, inKey⟩, last⟩
    · have nonempty : pieces a b c d ≠ [] := List.cons_ne_nil _ _
      rw [text, Pieces.intercalate_append nonempty (List.cons_ne_nil _ _),
        List.intercalate_cons_cons]
      simp
    all_goals simp

theorem accepts_iff_shaped (grammar : KeyGrammar) (name : String) :
    grammar.accepts name = true ↔ grammar.Shaped (List.splitOn '/' name.toList) := by
  cases grammar with
  | key => exact key_accepts_iff_shaped name
  | version => exact version_accepts_iff_shaped name
  | path => exact path_accepts_iff_shaped name

theorem plain_rule (grammar : KeyGrammar) : ∀ run ∈ grammar.rule.runs, run.cls.Plain := by
  cases grammar <;> decide

theorem grammars_accept (grammar : KeyGrammar) :
    (∀ name : String, grammar.accepts name = true ↔ grammar.Shaped (List.splitOn '/' name.toList)) ∧
    ∃ shown anchored : Expression,
      Expression.read? grammar.written.toList = some shown ∧
      Expression.read? ("^(?:" ++ grammar.written ++ ")$").toList = some anchored ∧
      ∀ name : String,
        (grammar.accepts name = true ↔ shown.Spans [] name.toList []) ∧
        (grammar.accepts name = true ↔ anchored.FoundIn name.toList) := by
  refine ⟨accepts_iff_shaped grammar, grammar.rule.expression,
    .sequence [.start, grammar.rule.expression, .finish], grammar.rule.read_written grammar.plain_rule,
    grammar.rule.read_between_ends grammar.plain_rule, fun name => ?_⟩
  have whole : grammar.accepts name = true ↔ grammar.rule.expression.Spans [] name.toList [] := by
    rw [accepts, Rule.accepts_iff, Rule.spans_iff]
  exact ⟨whole, whole.trans (Expression.found_between_ends _ _).symm⟩

end KeyCustody.KeyGrammar
