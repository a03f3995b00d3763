import KeyCustody.KeyName.Rule
import KeyCustody.Proofs.AuthorityText
import KeyCustody.Proofs.Pieces

set_option autoImplicit false

namespace KeyCustody
namespace Url

open KeyCustody.Url.Parser

theorem to_nat_lower (c : Char) :
    c.toLower.toNat = if 0x41 ≤ c.toNat ∧ c.toNat ≤ 0x5A then c.toNat + 0x20 else c.toNat := by
  have capital : (c.val ≥ 'A'.val ∧ c.val ≤ 'Z'.val) ↔ 0x41 ≤ c.toNat ∧ c.toNat ≤ 0x5A := Iff.rfl
  unfold Char.toLower
  by_cases upper : 0x41 ≤ c.toNat ∧ c.toNat ≤ 0x5A
  · rw [dif_pos (capital.mpr upper), if_pos upper]
    have value : (c.val + ('a'.val - 'A'.val)).toNat = (c.val.toNat + 0x20) % 2 ^ 32 :=
      UInt32.toNat_add _ _
    have bound : c.val.toNat ≤ 0x5A := upper.2
    exact value.trans (Nat.mod_eq_of_lt (by omega))
  · rw [dif_neg (mt capital.mp upper), if_neg upper]

theorem lower_eq_iff {x : Char} (low : x.toNat < 0x41) (c : Char) : c.toLower = x ↔ c = x := by
  rw [← Char.toNat_inj, ← Char.toNat_inj, to_nat_lower]
  split <;> omega

theorem lower_eq_e_iff (c : Char) : c.toLower = 'e' ↔ c = 'e' ∨ c = 'E' := by
  have e : 'e'.toNat = 0x65 := rfl
  have capital : 'E'.toNat = 0x45 := rfl
  rw [← Char.toNat_inj, ← Char.toNat_inj, ← Char.toNat_inj, to_nat_lower, e, capital]
  split <;> omega

def dots : List (List Char) := [['.'], ['%', '2', 'e'], ['%', '2', 'E']]

theorem dot_lower_iff (piece : List Char) :
    piece.map Char.toLower = ['.'] ∨ piece.map Char.toLower = ['%', '2', 'e'] ↔ piece ∈ dots := by
  have point := lower_eq_iff (x := '.') (by decide)
  have percent := lower_eq_iff (x := '%') (by decide)
  have two := lower_eq_iff (x := '2') (by decide)
  simp only [dots, List.map_eq_cons_iff, List.map_eq_nil_iff, point, percent, two, lower_eq_e_iff]
  grind

theorem is_dot_iff_mem (piece : List Char) : isDot piece = true ↔ piece ∈ dots := by
  rw [← dot_lower_iff]
  simp [isDot]

theorem is_double_dot_iff_mem (piece : List Char) :
    isDoubleDot piece = true ↔ ∃ front ∈ dots, ∃ back ∈ dots, piece = front ++ back := by
  have forms : isDoubleDot piece = true ↔
      piece.map Char.toLower = ['.'] ++ ['.'] ∨ piece.map Char.toLower = ['.'] ++ ['%', '2', 'e'] ∨
      piece.map Char.toLower = ['%', '2', 'e'] ++ ['.'] ∨
      piece.map Char.toLower = ['%', '2', 'e'] ++ ['%', '2', 'e'] := by
    simp only [isDoubleDot, Bool.or_eq_true, decide_eq_true_eq, or_assoc]
    exact Iff.rfl
  simp only [forms, List.map_eq_append_iff, ← dot_lower_iff]
  constructor
  · intro lowered
    rcases lowered with ⟨a, b, rfl, x, y⟩ | ⟨a, b, rfl, x, y⟩ | ⟨a, b, rfl, x, y⟩ | ⟨a, b, rfl, x, y⟩
    · exact ⟨a, .inl x, b, .inl y, rfl⟩
    · exact ⟨a, .inl x, b, .inr y, rfl⟩
    · exact ⟨a, .inr x, b, .inl y, rfl⟩
    · exact ⟨a, .inr x, b, .inr y, rfl⟩
  · intro parts
    rcases parts with ⟨a, x | x, b, y | y, rfl⟩
    · exact .inl ⟨a, b, rfl, x, y⟩
    · exact .inr (.inl ⟨a, b, rfl, x, y⟩)
    · exact .inr (.inr (.inl ⟨a, b, rfl, x, y⟩))
    · exact .inr (.inr (.inr ⟨a, b, rfl, x, y⟩))

theorem hex_value_two_iff (n : Nat) : hexValue? n = some 2 ↔ n = 0x32 := by
  simp only [hexValue?]
  grind

theorem hex_value_fourteen_iff (n : Nat) : hexValue? n = some 14 ↔ n = 0x65 ∨ n = 0x45 := by
  simp only [hexValue?]
  grind

theorem hex_value_lt {n value : Nat} (hex : hexValue? n = some value) : value < 16 := by
  simp only [hexValue?] at hex
  grind

theorem escape_point_iff (text rest : List Char) :
    escape? text = some (0x2E, rest) ↔ text = '2' :: 'e' :: rest ∨ text = '2' :: 'E' :: rest := by
  constructor
  · intro escape
    obtain ⟨high, low, h, l, rfl, first, second, octet⟩ := (escape_some_iff _ _ _).mp escape
    have highSmall := hex_value_lt first
    have lowSmall := hex_value_lt second
    have value : h * 16 + l = 0x2E := value_of_octet (by omega) octet
    obtain rfl : h = 2 := by omega
    obtain rfl : l = 14 := by omega
    obtain rfl : high = '2' := Char.toNat_inj.mp ((hex_value_two_iff _).mp first)
    cases (hex_value_fourteen_iff _).mp second with
    | inl small => exact .inl (by rw [show low = 'e' from Char.toNat_inj.mp small])
    | inr capital => exact .inr (by rw [show low = 'E' from Char.toNat_inj.mp capital])
  · intro written
    rcases written with rfl | rfl
    · rfl
    · rfl

theorem octets_point_iff (text : List Char) (rest : Bytes) :
    octets text = 0x2E :: rest ↔ ∃ dot ∈ dots, ∃ back, text = dot ++ back ∧ octets back = rest := by
  constructor
  · intro point
    cases text with
    | nil => cases point
    | cons c text =>
        by_cases percent : c = '%'
        · subst percent
          cases escape : escape? text with
          | none =>
              rw [octets_lone escape] at point
              cases point
          | some read =>
              rw [octets_escape escape] at point
              obtain ⟨octet, behind⟩ := List.cons.inj point
              have written := (escape_point_iff text read.2).mp (by rw [escape, ← octet])
              cases written with
              | inl small => exact ⟨_, .tail _ (.head _), _, congrArg ('%' :: ·) small, behind⟩
              | inr capital =>
                  exact ⟨_, .tail _ (.tail _ (.head _)), _, congrArg ('%' :: ·) capital, behind⟩
        · rw [octets_cons percent] at point
          by_cases ascii : c.toNat < 0x80
          · rw [Utf8.octets_of_ascii ascii] at point
            obtain ⟨octet, behind⟩ := List.cons.inj point
            have value : c.toNat = 0x2E := value_of_octet (by omega) octet
            obtain rfl : c = '.' := Char.toNat_inj.mp value
            exact ⟨_, .head _, text, rfl, behind⟩
          · obtain ⟨first, second, more, written, high⟩ := Utf8.octets_of_other (Nat.not_lt.mp ascii)
            rw [written] at point
            obtain ⟨rfl, -⟩ := List.cons.inj point
            exact absurd (high _ (.head _)) (by decide)
  · intro parts
    obtain ⟨dot, member, back, rfl, rfl⟩ := parts
    simp only [dots, List.mem_cons, List.not_mem_nil, or_false] at member
    obtain rfl | rfl | rfl := member
    · rw [List.singleton_append, octets_cons (by decide)]
      rfl
    · exact octets_escape rfl
    · exact octets_escape rfl

theorem octets_eq_nil_iff (text : List Char) : octets text = [] ↔ text = [] := by
  constructor
  · intro none
    cases text with
    | nil => rfl
    | cons c text =>
        by_cases percent : c = '%'
        · subst percent
          cases escape : escape? text with
          | none =>
              rw [octets_lone escape] at none
              cases none
          | some read =>
              rw [octets_escape escape] at none
              cases none
        · obtain ⟨first, more, written, -⟩ := first_octet c
          rw [octets_cons percent, written] at none
          cases none
  · intro none
    rw [none, octets_nil]

theorem is_dot_iff (piece : List Char) : isDot piece = true ↔ octets piece = [0x2E] := by
  rw [is_dot_iff_mem, octets_point_iff]
  simp only [octets_eq_nil_iff]
  constructor
  · intro member
    exact ⟨piece, member, [], (List.append_nil piece).symm, rfl⟩
  · intro parts
    obtain ⟨dot, member, _, rfl, rfl⟩ := parts
    rwa [List.append_nil]

theorem is_double_dot_iff (piece : List Char) :
    isDoubleDot piece = true ↔ octets piece = [0x2E, 0x2E] := by
  rw [is_double_dot_iff_mem, octets_point_iff]
  simp only [← is_dot_iff, is_dot_iff_mem]
  constructor
  · intro doubled
    obtain ⟨front, first, back, second, written⟩ := doubled
    exact ⟨front, first, back, written, second⟩
  · intro points
    obtain ⟨front, first, back, written, second⟩ := points
    exact ⟨front, first, back, second, written⟩

namespace Parser

structure Steady (segment : List Char) : Prop where
  encoded : percentEncode .path segment = segment
  dot : isDot segment = false
  doubleDot : isDoubleDot segment = false
  slash : '/' ∉ segment
  backslash : '\\' ∉ segment

theorem transparent_path : EncodeSet.Transparent .path :=
  forall_of_all (by decide)

theorem is_dot_encode (piece : List Char) : isDot (percentEncode .path piece) = isDot piece := by
  rw [Bool.eq_iff_iff, is_dot_iff, is_dot_iff, octets_percent_encode transparent_path]

theorem is_double_dot_encode (piece : List Char) :
    isDoubleDot (percentEncode .path piece) = isDoubleDot piece := by
  rw [Bool.eq_iff_iff, is_double_dot_iff, is_double_dot_iff, octets_percent_encode transparent_path]

theorem steady_encode {piece : List Char} (dot : isDot piece = false)
    (doubleDot : isDoubleDot piece = false) (slash : '/' ∉ piece) (backslash : '\\' ∉ piece) :
    Steady (percentEncode .path piece) := by
  have apart (mark : Char) (outside : mark ∉ escapeChars) (free : mark ∉ piece) :
      mark ∉ percentEncode .path piece := by
    intro member
    cases mem_percent_encode member with
    | inl kept => exact free kept.1
    | inr written => exact outside written
  exact {
    encoded := percent_encode_twice (forall_of_all (by decide)) piece
    dot := (is_dot_encode piece).trans dot
    doubleDot := (is_double_dot_encode piece).trans doubleDot
    slash := apart '/' (by decide) slash
    backslash := apart '\\' (by decide) backslash }

theorem steady_nil : Steady [] where
  encoded := rfl
  dot := rfl
  doubleDot := rfl
  slash := List.not_mem_nil
  backslash := List.not_mem_nil

theorem steady_inert {segment : List Char} (steady : Steady segment) : ∀ c ∈ segment, Inert c := by
  intro c member
  have slash : c ≠ '/' := fun same => steady.slash (same ▸ member)
  have backslash : c ≠ '\\' := fun same => steady.backslash (same ▸ member)
  rw [← steady.encoded] at member
  obtain ⟨-, printable, -, free⟩ | written := mem_percent_encode member
  · have marks : ' ' ∈ EncodeSet.path ∧ '?' ∈ EncodeSet.path ∧ '#' ∈ EncodeSet.path := by decide
    have visible : 0x20 < c.toNat := by
      apply Nat.lt_of_le_of_ne printable
      intro blank
      exact free (Char.toNat_inj.mp (show ' '.toNat = c.toNat from blank) ▸ marks.1)
    exact ⟨visible, slash, backslash, fun same => free (same ▸ marks.2.1),
      fun same => free (same ▸ marks.2.2)⟩
  · exact inert_escape c written

theorem printable_of_word {c : Char} (word : CharClass.isWord c = true) :
    0x20 ≤ c.toNat ∧ c.toNat ≤ 0x7E := by
  simp only [CharClass.isWord, Char.isAlphanum, Bool.or_eq_true, decide_eq_true_eq] at word
  obtain ((letter | digit) | rfl) | rfl := word
  · obtain upper | lower := (Bool.or_eq_true c.isUpper c.isLower).mp letter
    · have bounds : 0x41 ≤ c.toNat ∧ c.toNat ≤ 0x5A := of_decide_eq_true upper
      omega
    · obtain ⟨above, below⟩ := (Bool.and_eq_true _ _).mp lower
      have bounds : 0x61 ≤ c.toNat ∧ c.toNat ≤ 0x7A :=
        ⟨of_decide_eq_true above, of_decide_eq_true below⟩
      omega
  · have bounds : 0x30 ≤ c.toNat ∧ c.toNat ≤ 0x39 := Char.isDigit_iff_toNat.mp digit
    omega
  · decide
  · decide

theorem steady_word {segment : List Char}
    (word : ∀ c ∈ segment, CharClass.isWord c = true ∨ c = ':') : Steady segment := by
  have apart (mark : Char) (outside : CharClass.isWord mark = false ∧ mark ≠ ':') : mark ∉ segment := by
    intro member
    obtain inWord | same := word mark member
    · rw [outside.1] at inWord
      cases inWord
    · exact outside.2 same
  have printable (c : Char) (member : c ∈ segment) : 0x20 ≤ c.toNat ∧ c.toNat ≤ 0x7E := by
    obtain inWord | rfl := word c member
    · exact printable_of_word inWord
    · decide
  have dotted : ∀ dot ∈ dots, '.' ∈ dot ∨ '%' ∈ dot := by decide
  have noDot (dot : List Char) (among : dot ∈ dots) (within : dot ⊆ segment) : False := by
    cases dotted dot among with
    | inl point => exact apart '.' (by decide) (within point)
    | inr percent => exact apart '%' (by decide) (within percent)
  exact {
    encoded := by
      have free : ∀ mark ∈ EncodeSet.path, CharClass.isWord mark = false ∧ mark ≠ ':' :=
        forall_of_all (by decide)
      apply percent_encode_kept
      intro c member
      exact ⟨(printable c member).1, (printable c member).2, fun among => apart c (free c among) member⟩
    dot := by
      rw [Bool.eq_false_iff, ne_eq, is_dot_iff_mem]
      exact fun dot => noDot segment dot (List.Subset.refl _)
    doubleDot := by
      rw [Bool.eq_false_iff, ne_eq, is_double_dot_iff_mem]
      intro doubled
      obtain ⟨front, among, back, -, written⟩ := doubled
      exact noDot front among (written ▸ List.subset_append_left front back)
    slash := apart '/' (by decide)
    backslash := apart '\\' (by decide) }

theorem leave_drop (walk : Walk) : ∃ left, walk.leave.visited = walk.visited.drop left := by
  unfold Walk.leave
  split
  · exact ⟨0, rfl⟩
  · rename_i visited
    split
    · exact ⟨0, rfl⟩
    · exact ⟨1, by rw [visited]; rfl⟩

section

variable {walk : Walk} {last : Bool} {piece : List Char}

theorem add_enter (dot : isDot piece = false) (doubleDot : isDoubleDot piece = false) :
    walk.add false last piece = { walk with visited := encodeSegment piece :: walk.visited } := by
  simp [Walk.add, Walk.enter, dot, doubleDot]

theorem add_steady (steady : Steady piece) :
    walk.add false last piece = { walk with visited := String.ofList piece :: walk.visited } := by
  rw [add_enter steady.dot steady.doubleDot, encodeSegment, steady.encoded]

theorem add_keeps (slash : '/' ∉ piece) (backslash : '\\' ∉ piece)
    (steady : ∀ segment ∈ walk.visited, Steady segment.toList) :
    ∀ segment ∈ (walk.add false last piece).visited, Steady segment.toList := by
  have left : ∀ segment ∈ walk.leave.visited, Steady segment.toList := by
    obtain ⟨left, same⟩ := leave_drop walk
    intro segment member
    rw [same] at member
    exact steady segment (List.mem_of_mem_drop member)
  have closed {walk : Walk} (steady : ∀ segment ∈ walk.visited, Steady segment.toList) :
      ∀ segment ∈ walk.close.visited, Steady segment.toList :=
    List.forall_mem_cons.mpr ⟨steady_nil, steady⟩
  unfold Walk.add
  split
  · split
    · exact closed left
    · exact left
  · rename_i doubleDot
    split
    · split
      · exact closed steady
      · exact steady
    · rename_i dot
      have entered := steady_encode (Bool.eq_false_iff.mpr dot) (Bool.eq_false_iff.mpr doubleDot)
        slash backslash
      intro segment member
      simp only [Walk.enter, Bool.false_eq_true, false_and, if_false] at member
      cases member with
      | head =>
          rw [encodeSegment, String.toList_ofList]
          exact entered
      | tail _ later => exact steady segment later

theorem add_last (walk : Walk) (piece : List Char) : (walk.add false true piece).visited ≠ [] := by
  unfold Walk.add
  split
  · exact List.cons_ne_nil _ _
  · split
    · exact List.cons_ne_nil _ _
    · simp [Walk.enter]

theorem add_enters (walk : Walk) (piece : List Char) :
    ∃ (entered : List (List Char)) (left : Nat), (walk.add false false piece).visited =
        entered.map encodeSegment ++ walk.visited.drop left ∧
      ∀ other ∈ entered, other = piece ∧ isDot piece = false ∧ isDoubleDot piece = false := by
  unfold Walk.add
  split
  · obtain ⟨left, same⟩ := leave_drop walk
    exact ⟨[], left, same, nofun⟩
  · rename_i doubleDot
    split
    · exact ⟨[], 0, rfl, nofun⟩
    · rename_i dot
      refine ⟨[piece], 0, by simp [Walk.enter], ?_⟩
      rw [List.forall_mem_singleton]
      exact ⟨rfl, Bool.eq_false_iff.mpr dot, Bool.eq_false_iff.mpr doubleDot⟩

end

theorem add_all_keeps (walk : Walk) (pieces : List (List Char))
    (free : ∀ piece ∈ pieces, '/' ∉ piece ∧ '\\' ∉ piece)
    (steady : ∀ segment ∈ walk.visited, Steady segment.toList) :
    ∀ segment ∈ (walk.addAll false pieces).visited, Steady segment.toList := by
  fun_induction Walk.addAll false walk pieces with
  | case1 walk => exact steady
  | case2 walk piece =>
      have apart := free piece List.mem_cons_self
      exact add_keeps apart.1 apart.2 steady
  | case3 walk piece rest _ ih =>
      obtain ⟨apart, later⟩ := List.forall_mem_cons.mp free
      exact ih later (add_keeps apart.1 apart.2 steady)

theorem add_all_some (walk : Walk) (pieces : List (List Char)) (some : pieces ≠ []) :
    (walk.addAll false pieces).visited ≠ [] := by
  fun_induction Walk.addAll false walk pieces with
  | case1 => exact absurd rfl some
  | case2 walk piece => exact add_last walk piece
  | case3 walk piece rest more ih => exact ih more

theorem add_all_append (walk : Walk) (front back : List (List Char)) (more : back ≠ []) :
    walk.addAll false (front ++ back) =
      (front.foldl (Walk.add false false) walk).addAll false back := by
  induction front generalizing walk with
  | nil => rfl
  | cons piece front ih =>
      rw [List.cons_append, Walk.addAll, List.foldl_cons, ih]
      intro none
      exact more (List.append_eq_nil_iff.mp none).2

theorem foldl_steady (walk : Walk) (pieces : List (List Char))
    (steady : ∀ piece ∈ pieces, Steady piece) :
    pieces.foldl (Walk.add false false) walk =
      { walk with visited := (pieces.map String.ofList).reverse ++ walk.visited } := by
  induction pieces generalizing walk with
  | nil => rfl
  | cons piece pieces ih =>
      obtain ⟨first, later⟩ := List.forall_mem_cons.mp steady
      rw [List.foldl_cons, ih _ later, add_steady first]
      simp

theorem add_all_steady (walk : Walk) (pieces : List (List Char))
    (steady : ∀ piece ∈ pieces, Steady piece) :
    walk.addAll false pieces =
      { walk with visited := (pieces.map String.ofList).reverse ++ walk.visited } := by
  fun_induction Walk.addAll false walk pieces with
  | case1 walk => rfl
  | case2 walk piece =>
      rw [add_steady (steady piece List.mem_cons_self)]
      rfl
  | case3 walk piece rest _ ih =>
      obtain ⟨first, later⟩ := List.forall_mem_cons.mp steady
      rw [ih later, add_steady first]
      simp

-- What a walk enters is left on top of what it has not gone back over.
theorem walked_over (walk : Walk) (pieces : List (List Char)) :
    ∃ (entered : List (List Char)) (left : Nat),
      (pieces.foldl (Walk.add false false) walk).visited =
        entered.map encodeSegment ++ walk.visited.drop left ∧
      ∀ piece ∈ entered, piece ∈ pieces ∧ isDot piece = false ∧ isDoubleDot piece = false := by
  induction pieces generalizing walk with
  | nil => exact ⟨[], 0, rfl, nofun⟩
  | cons piece pieces ih =>
      obtain ⟨first, back, visited, isPiece⟩ := add_enters walk piece
      obtain ⟨later, left, rest, among⟩ := ih (walk.add false false piece)
      rw [List.foldl_cons, rest, visited, List.drop_append, List.drop_drop, List.length_map,
        ← List.map_drop, ← List.append_assoc, ← List.map_append]
      refine ⟨later ++ first.drop left, _, rfl, ?_⟩
      intro other member
      cases List.mem_append.mp member with
      | inl inLater =>
          obtain ⟨inPieces, noDots⟩ := among other inLater
          exact ⟨List.mem_cons_of_mem piece inPieces, noDots⟩
      | inr inFirst =>
          obtain ⟨rfl, noDots⟩ := isPiece other (List.mem_of_mem_drop inFirst)
          exact ⟨List.mem_cons_self, noDots⟩

theorem path_pieces_append (front back : List Char) :
    pathPieces true (front ++ '/' :: back) = pathPieces true front ++ pathPieces true back := by
  rw [pathPieces, List.map_append, List.map_cons]
  exact List.splitOn_append_cons_self _ _

theorem slash_of_eq {c : Char} (free : (if isSlash true c then '/' else c) ≠ '/') :
    (if isSlash true c then '/' else c) = c := by
  split at free
  · exact absurd rfl free
  · exact if_neg ‹_›

theorem path_piece_sublist {text piece : List Char} (member : piece ∈ pathPieces true text) :
    List.Sublist piece text := by
  obtain ⟨own, within, written⟩ := List.sublist_map_iff.mp (Pieces.piece_sublist _ piece member)
  have free := Pieces.separator_free _ piece member
  have same : own.map (fun c => if isSlash true c then '/' else c) = own.map id := by
    apply List.map_congr_left
    intro c inOwn
    apply slash_of_eq
    intro slash
    have image : (if isSlash true c then '/' else c) ∈ piece := by
      rw [written]
      exact List.mem_map.mpr ⟨c, inOwn, rfl⟩
    exact free (slash ▸ image)
  rw [written, same, List.map_id]
  exact within

theorem path_piece_free {text piece : List Char} (member : piece ∈ pathPieces true text) :
    '/' ∉ piece ∧ '\\' ∉ piece := by
  refine ⟨Pieces.separator_free _ piece member, ?_⟩
  intro backslash
  have within := (Pieces.piece_sublist _ piece member).subset backslash
  obtain ⟨c, -, same⟩ := List.mem_map.mp within
  split at same
  · cases same
  · rename_i noSlash
    rw [same] at noSlash
    exact noSlash rfl

theorem path_pieces_of_free {text : List Char} (backslash : '\\' ∉ text) :
    pathPieces true text = List.splitOn '/' text := by
  have same : text.map (fun c => if isSlash true c then '/' else c) = text.map id := by
    apply List.map_congr_left
    intro c member
    have apart : c ≠ '\\' := fun same => backslash (same ▸ member)
    by_cases slash : c = '/'
    · rw [slash]
      rfl
    · simp [isSlash, apart, slash]
  rw [pathPieces, same, List.map_id]

theorem path_pieces_join (segments : List (List Char)) (some : segments ≠ [])
    (steady : ∀ segment ∈ segments, Steady segment) :
    pathPieces true (List.intercalate ['/'] segments) = segments := by
  have free : ∀ segment ∈ segments, '/' ∉ segment := fun segment member =>
    (steady segment member).slash
  rw [path_pieces_of_free, List.splitOn_intercalate _ free some]
  intro backslash
  cases mem_join '/' backslash with
  | inl same => cases same
  | inr found =>
      obtain ⟨segment, among, member⟩ := found
      exact (steady segment among).backslash member

theorem path_pieces_some (text : List Char) : pathPieces true text ≠ [] :=
  List.splitOn_ne_nil _ _

theorem segments_steady (text : List Char) :
    segments true text ≠ [] ∧ ∀ segment ∈ segments true text, Steady segment.toList := by
  constructor
  · intro none
    exact add_all_some _ _ (path_pieces_some text) (List.reverse_eq_nil_iff.mp none)
  · intro segment member
    apply add_all_keeps ⟨[], false⟩ _ (fun piece => path_piece_free) nofun
    exact List.mem_reverse.mp member

-- The text between two rows of steady segments is walked over alone.
theorem segments_between (front back : List (List Char)) (middle : List Char) (start : front ≠ [])
    (more : back ≠ []) (steadyFront : ∀ segment ∈ front, Steady segment)
    (steadyBack : ∀ segment ∈ back, Steady segment) :
    segments true (List.intercalate ['/'] front ++ '/' :: (middle ++ '/' :: List.intercalate ['/'] back)) =
      ((pathPieces true middle).foldl (Walk.add false false)
        ⟨(front.map String.ofList).reverse, false⟩).visited.reverse ++ back.map String.ofList := by
  rw [segments, walk, path_pieces_append, path_pieces_append, path_pieces_join front start steadyFront,
    path_pieces_join back more steadyBack, ← List.append_assoc, add_all_append _ _ _ more,
    List.foldl_append, foldl_steady _ front steadyFront, add_all_steady _ back steadyBack]
  simp [Walk.path]

def counts (c : Char) : Bool :=
  c ≠ '\t' && c ≠ '\n' && c ≠ '\r'

/-- A text that stands for just itself where it is a segment of an endpoint. -/
structure Literal (text : List Char) : Prop where
  marks : ∀ c ∈ text, c ∉ ['/', '\\', '?', '#', '\t', '\n', '\r']
  octets : octets text = Utf8.encode text
  point : text ≠ ['.']
  points : text ≠ ['.', '.']

theorem not_dots {text : List Char} (octets : octets text = Utf8.encode text) (point : text ≠ ['.'])
    (points : text ≠ ['.', '.']) : isDot text = false ∧ isDoubleDot text = false := by
  constructor
  · rw [Bool.eq_false_iff, ne_eq, is_dot_iff, octets]
    intro same
    have encoded : [0x2E] = Utf8.encode ['.'] := by decide
    exact point (Utf8.encode_injective (same.trans encoded))
  · rw [Bool.eq_false_iff, ne_eq, is_double_dot_iff, octets]
    intro same
    have encoded : [0x2E, 0x2E] = Utf8.encode ['.', '.'] := by decide
    exact points (Utf8.encode_injective (same.trans encoded))

theorem octets_of_segment (piece : List Char) : octets (encodeSegment piece).toList = octets piece := by
  rw [encodeSegment, String.toList_ofList, octets_percent_encode transparent_path]

theorem octets_of_steady (pieces : List (List Char)) :
    (pieces.map String.ofList).map (fun segment => octets segment.toList) = pieces.map octets := by
  simp only [List.map_map, Function.comp_def, String.toList_ofList]

section

variable {front back : List (List Char)} (start : front ≠ []) (more : back ≠ [])
  (steadyFront : ∀ segment ∈ front, Steady segment) (steadyBack : ∀ segment ∈ back, Steady segment)

include start more steadyFront steadyBack

theorem between_octets_iff (middle : List Char) (expected : Bytes) :
    (segments true (List.intercalate ['/'] front ++ '/' :: (middle ++ '/' :: List.intercalate ['/'] back))).map
        (fun segment => octets segment.toList) = front.map octets ++ expected :: back.map octets ↔
      ((pathPieces true middle).foldl (Walk.add false false)
          ⟨(front.map String.ofList).reverse, false⟩).visited.map
            (fun segment => octets segment.toList) =
        expected :: (front.map octets).reverse := by
  rw [segments_between front back middle start more steadyFront steadyBack, List.map_append,
    octets_of_steady, List.append_cons, List.append_left_inj, List.map_reverse, List.reverse_eq_iff,
    List.reverse_append, List.reverse_singleton, List.singleton_append]

theorem literal_of_octets {text : List Char} (slash : '/' ∉ text)
    (inPath : ∀ c ∈ text, endsPath c = false)
    (same : (segments true (List.intercalate ['/'] front ++
        '/' :: (text.filter counts ++ '/' :: List.intercalate ['/'] back))).map
          (fun segment => octets segment.toList) =
      front.map octets ++ Utf8.encode text :: back.map octets) : Literal text := by
  rw [between_octets_iff start more steadyFront steadyBack] at same
  obtain ⟨entered, left, visited, among⟩ :=
    walked_over ⟨(front.map String.ofList).reverse, false⟩ (pathPieces true (text.filter counts))
  rw [visited] at same
  cases entered with
  | nil =>
      -- Nothing was entered, so there is one segment too few.
      have lengths := congrArg List.length same
      simp at lengths
      omega
  | cons piece entered =>
      obtain ⟨inPieces, dot, doubleDot⟩ := among piece List.mem_cons_self
      have stands : octets piece = Utf8.encode text := by
        rw [← octets_of_segment]
        exact (List.cons.inj same).1
      have within := (path_piece_sublist inPieces).trans List.filter_sublist
      obtain rfl := eq_of_octets_eq within stands
      have backslash := (path_piece_free inPieces).2
      have counted := (path_piece_sublist inPieces).subset
      refine ⟨?_, stands, fun same => ?_, fun same => ?_⟩
      · intro c member mark
        have counts := (List.mem_filter.mp (counted member)).2
        have ends := inPath c member
        simp only [List.mem_cons, List.not_mem_nil, or_false] at mark
        obtain rfl | rfl | rfl | rfl | rfl | rfl | rfl := mark
        · exact slash member
        · exact backslash member
        · cases ends
        · cases ends
        · cases counts
        · cases counts
        · cases counts
      · rw [same] at dot
        cases dot
      · rw [same] at doubleDot
        cases doubleDot

theorem octets_of_literal {text : List Char} (literal : Literal text) :
    (segments true (List.intercalate ['/'] front ++
        '/' :: (text.filter counts ++ '/' :: List.intercalate ['/'] back))).map
          (fun segment => octets segment.toList) =
      front.map octets ++ Utf8.encode text :: back.map octets := by
  rw [between_octets_iff start more steadyFront steadyBack]
  have counted : text.filter counts = text := by
    apply List.filter_eq_self.mpr
    intro c member
    have apart := literal.marks c member
    simp only [List.mem_cons, not_or] at apart
    simp [counts, apart]
  have slash : '/' ∉ text := fun member => literal.marks '/' member (by decide)
  have backslash : '\\' ∉ text := fun member => literal.marks '\\' member (by decide)
  obtain ⟨dot, doubleDot⟩ := not_dots literal.octets literal.point literal.points
  rw [counted, path_pieces_of_free backslash, List.splitOn_eq_singleton slash, List.foldl_cons,
    List.foldl_nil, add_enter dot doubleDot, List.map_cons, octets_of_segment, literal.octets,
    List.map_reverse, octets_of_steady]

end

end Parser

end Url
end KeyCustody
