import KeyCustody.KeyName.Basic
import KeyCustody.KeyName.Version
import KeyCustody.Proofs.Pieces

set_option autoImplicit false

namespace KeyCustody

namespace Run

theorem single_describes_iff (cls : CharClass) (marked : Bool) (s : List Char) :
    Describes ⟨cls, 1, some 0, marked⟩ s ↔ ∃ c, s = [c] ∧ cls.has c = true := by
  constructor
  · rintro ⟨least, most, all⟩
    obtain ⟨c, rfl⟩ := List.length_eq_one_iff.mp (Nat.le_antisymm (most 0 rfl) least)
    exact ⟨c, rfl, all c List.mem_cons_self⟩
  · rintro ⟨c, rfl, has⟩
    simpa [Describes] using has

end Run

namespace Rule

theorem describes_run_cons (run : Run) (rest : List Run) (s : List Char) :
    (mk (run :: rest)).Describes s ↔
      ∃ front back, s = front ++ back ∧ run.Describes front ∧ (mk rest).Describes back :=
  Iff.rfl

theorem describes_run (run : Run) (s : List Char) : (mk [run]).Describes s ↔ run.Describes s := by
  rw [describes_run_cons]
  constructor
  · rintro ⟨front, _, rfl, described, rfl⟩
    rwa [List.append_nil]
  · intro described
    exact ⟨s, [], (List.append_nil s).symm, described, rfl⟩

theorem just_describes_iff (c : Char) (s : List Char) :
    (Run.mk (.just c) 1 (some 0) false).Describes s ↔ s = [c] := by
  rw [Run.single_describes_iff]
  simp [CharClass.has]

theorem describes_fixed_append (text : String) (rest : List Run) (s : List Char) :
    (mk (KeyGrammar.fixed text ++ rest)).Describes s ↔
      ∃ back, s = text.toList ++ back ∧ (mk rest).Describes back := by
  rw [KeyGrammar.fixed]
  induction text.toList generalizing s with
  | nil => simp
  | cons c text ih =>
      simp only [List.map_cons, List.cons_append, describes_run_cons, just_describes_iff, ih]
      constructor
      · rintro ⟨_, _, rfl, rfl, back, rfl, described⟩
        exact ⟨back, rfl, described⟩
      · rintro ⟨back, rfl, described⟩
        exact ⟨[c], text ++ back, rfl, rfl, back, rfl, described⟩

end Rule

namespace KeyGrammar

def pieces (project location keyRing key : List Char) : List (List Char) :=
  ["projects".toList, project, "locations".toList, location, "keyRings".toList, keyRing,
    "cryptoKeys".toList, key]

theorem join_pieces (project location keyRing key : List Char) :
    List.intercalate ['/'] (pieces project location keyRing key) =
      "projects/".toList ++ (project ++ ("/locations/".toList ++ (location ++
        ("/keyRings/".toList ++ (keyRing ++ ("/cryptoKeys/".toList ++ key)))))) := by
  simp [pieces, List.intercalate]

theorem describes_pieces_append_iff (project location keyRing key : Run) (rest : List Run)
    (s : List Char) :
    (Rule.mk (fixed "projects/" ++ [project] ++ fixed "/locations/" ++ [location] ++
        fixed "/keyRings/" ++ [keyRing] ++ fixed "/cryptoKeys/" ++ [key] ++ rest)).Describes s ↔
      ∃ a b c d back, s = List.intercalate ['/'] (pieces a b c d) ++ back ∧ project.Describes a ∧
        location.Describes b ∧ keyRing.Describes c ∧ key.Describes d ∧
        (Rule.mk rest).Describes back := by
  simp only [List.append_assoc, List.cons_append, List.nil_append,
    Rule.describes_fixed_append, Rule.describes_run_cons, join_pieces]
  constructor
  · rintro ⟨_, rfl, a, _, rfl, inProject, _, rfl, b, _, rfl, inLocation, _, rfl, c, _, rfl, inRing, _,
      rfl, d, back, rfl, inKey, described⟩
    exact ⟨a, b, c, d, back, rfl, inProject, inLocation, inRing, inKey, described⟩
  · rintro ⟨a, b, c, d, back, rfl, inProject, inLocation, inRing, inKey, described⟩
    exact ⟨_, rfl, a, _, rfl, inProject, _, rfl, b, _, rfl, inLocation, _, rfl, c, _, rfl, inRing, _,
      rfl, d, back, rfl, inKey, described⟩

theorem describes_pieces_iff (project location keyRing key : Run) (s : List Char) :
    (Rule.mk (fixed "projects/" ++ [project] ++ fixed "/locations/" ++ [location] ++
        fixed "/keyRings/" ++ [keyRing] ++ fixed "/cryptoKeys/" ++ [key])).Describes s ↔
      ∃ a b c d, s = List.intercalate ['/'] (pieces a b c d) ∧
        project.Describes a ∧ location.Describes b ∧ keyRing.Describes c ∧ key.Describes d := by
  have exact := describes_pieces_append_iff project location keyRing key [] s
  rw [List.append_nil] at exact
  rw [exact]
  constructor
  · rintro ⟨a, b, c, d, _, text, inProject, inLocation, inRing, inKey, rfl⟩
    exact ⟨a, b, c, d, text.trans (List.append_nil _), inProject, inLocation, inRing, inKey⟩
  · rintro ⟨a, b, c, d, text, inProject, inLocation, inRing, inKey⟩
    exact ⟨a, b, c, d, [], text.trans (List.append_nil _).symm, inProject, inLocation, inRing, inKey,
      rfl⟩

theorem accepts_key_iff (name : String) :
    key.accepts name = true ↔ ∃ a b c d, name.toList = List.intercalate ['/'] (pieces a b c d) ∧
      segment.Describes a ∧ word.Describes b ∧ word.Describes c ∧ word.Describes d := by
  rw [accepts, Rule.accepts_iff]
  exact describes_pieces_iff { segment with marked := true } { word with marked := true } word word _

theorem accepts_path_iff (name : String) :
    path.accepts name = true ↔ ∃ a b c d, name.toList = List.intercalate ['/'] (pieces a b c d) ∧
      segment.Describes a ∧ segment.Describes b ∧ segment.Describes c ∧ line.Describes d := by
  rw [accepts, Rule.accepts_iff]
  exact describes_pieces_iff segment segment segment line _

theorem segment_has_no_slash {s : List Char} (described : segment.Describes s) : '/' ∉ s := by
  intro slash
  have has := described.2.2 '/' slash
  exact absurd has (by decide)

theorem segment_describes_iff (s : List Char) : segment.Describes s ↔ s ≠ [] ∧ '/' ∉ s := by
  constructor
  · intro described
    exact ⟨List.length_pos_iff.mp described.1, segment_has_no_slash described⟩
  · rintro ⟨some, free⟩
    refine ⟨List.length_pos_iff.mpr some, nofun, fun c listed => ?_⟩
    have other : c ≠ '/' := fun slash => free (slash ▸ listed)
    simpa [segment, CharClass.has] using other

theorem line_describes_iff (s : List Char) : line.Describes s ↔ '\n' ∉ s := by
  constructor
  · rintro ⟨-, -, within⟩ newline
    exact absurd (within '\n' newline) (by decide)
  · intro free
    refine ⟨Nat.zero_le _, nofun, fun c listed => ?_⟩
    have other : c ≠ '\n' := fun newline => free (newline ▸ listed)
    simpa [line, CharClass.has] using other

theorem word_is_segment {s : List Char} (described : word.Describes s) : segment.Describes s := by
  obtain ⟨least, -, within⟩ := described
  apply (segment_describes_iff s).mpr
  exact ⟨List.length_pos_iff.mp least, fun slash => absurd (within '/' slash) (by decide)⟩

theorem word_is_line {s : List Char} (described : word.Describes s) : line.Describes s :=
  (line_describes_iff s).mpr fun newline => absurd (described.2.2 '\n' newline) (by decide)

theorem path_accepts_of_key {name : String} (accepted : key.accepts name = true) :
    path.accepts name = true := by
  obtain ⟨a, b, c, d, text, inProject, inLocation, inRing, inKey⟩ := (accepts_key_iff name).mp accepted
  exact (accepts_path_iff name).mpr ⟨a, b, c, d, text, inProject, word_is_segment inLocation,
    word_is_segment inRing, word_is_line inKey⟩

theorem split_pieces {a b c d : List Char} (inProject : segment.Describes a)
    (inLocation : segment.Describes b) (inRing : segment.Describes c) (inKey : segment.Describes d) :
    List.splitOn '/' (List.intercalate ['/'] (pieces a b c d)) = pieces a b c d := by
  apply List.splitOn_intercalate _ _ (by simp [pieces])
  have project := segment_has_no_slash inProject
  have location := segment_has_no_slash inLocation
  have ring := segment_has_no_slash inRing
  have last := segment_has_no_slash inKey
  simp [pieces, project, location, ring, last]

theorem split_key {name : String} (accepted : key.accepts name = true) :
    ∃ a b c d, List.splitOn '/' name.toList = pieces a b c d := by
  obtain ⟨a, b, c, d, text, inProject, inLocation, inRing, inKey⟩ := (accepts_key_iff name).mp accepted
  rw [text]
  exact ⟨a, b, c, d, split_pieces inProject (word_is_segment inLocation) (word_is_segment inRing)
    (word_is_segment inKey)⟩

end KeyGrammar

theorem KeyName.eq_of_text {grammar : KeyGrammar} {name other : KeyName grammar}
    (same : name.text = other.text) : name = other := by
  cases name
  cases other
  cases same
  rfl

open KeyGrammar (pieces)

theorem without_version_of_length {name : String} (other : (List.splitOn '/' name.toList).length ≠ 10) :
    withoutVersion name = name := by
  unfold withoutVersion
  split
  · rename_i ten
    rw [ten] at other
    exact absurd rfl other
  · rfl

theorem without_version_of_ten {name : String} {a b c d version : List Char}
    (ten : List.splitOn '/' name.toList = pieces a b c d ++ ["cryptoKeyVersions".toList, version]) :
    withoutVersion name = String.ofList (List.intercalate ['/'] (pieces a b c d)) := by
  simp only [withoutVersion, ten, pieces, List.cons_append, List.nil_append, and_self, if_true]

theorem without_version_of_key {name : String} (accepted : KeyGrammar.key.accepts name = true) :
    withoutVersion name = name := by
  obtain ⟨a, b, c, d, eight⟩ := KeyGrammar.split_key accepted
  apply without_version_of_length
  simp [eight, pieces]

end KeyCustody
