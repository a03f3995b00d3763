import KeyCustody.Url.Parser

set_option autoImplicit false

namespace KeyCustody

theorem forall_of_all {α : Type} {P : α → Prop} [DecidablePred P] {list : List α}
    (holds : list.all (fun a => decide (P a)) = true) : ∀ a ∈ list, P a :=
  fun a member => of_decide_eq_true (List.all_eq_true.mp holds a member)

namespace Utf8

theorem encode_cons (c : Char) (text : List Char) :
    encode (c :: text) = String.utf8EncodeChar c ++ encode text :=
  List.flatMap_cons

theorem encode_sublist {a b : List Char} (within : List.Sublist a b) :
    List.Sublist (encode a) (encode b) := by
  induction within with
  | slnil => exact List.Sublist.refl _
  | cons c _ ih =>
      rw [encode_cons]
      exact ih.trans (List.sublist_append_right _ _)
  | cons_cons c _ ih =>
      rw [encode_cons, encode_cons]
      exact ih.append_left _

theorem octets_of_ascii {c : Char} (ascii : c.toNat < 0x80) :
    String.utf8EncodeChar c = [UInt8.ofNat c.toNat] := by
  have small : c.val.toNat ≤ 0x7F := Nat.le_of_lt_succ ascii
  rw [String.utf8EncodeChar, if_pos small]
  rfl

theorem octets_of_other {c : Char} (other : 0x80 ≤ c.toNat) :
    ∃ first second rest, String.utf8EncodeChar c = first :: second :: rest ∧
      ∀ octet ∈ first :: second :: rest, 0x80 ≤ octet.toNat := by
  have large : ¬c.val.toNat ≤ 0x7F := Nat.not_le.mpr other
  have bound (n : Nat) (high : 0x80 ≤ n) (low : n < 0x100) : 0x80 ≤ (UInt8.ofNat n).toNat := by
    rwa [UInt8.toNat_ofNat_of_lt' low]
  rw [String.utf8EncodeChar, if_neg large]
  split
  · refine ⟨_, _, _, rfl, ?_⟩
    simp only [List.forall_mem_cons, List.not_mem_nil, false_imp_iff, implies_true, and_true]
    exact ⟨bound _ (by omega) (by omega), bound _ (by omega) (by omega)⟩
  · split
    · refine ⟨_, _, _, rfl, ?_⟩
      simp only [List.forall_mem_cons, List.not_mem_nil, false_imp_iff, implies_true, and_true]
      exact ⟨bound _ (by omega) (by omega), bound _ (by omega) (by omega), bound _ (by omega) (by omega)⟩
    · refine ⟨_, _, _, rfl, ?_⟩
      simp only [List.forall_mem_cons, List.not_mem_nil, false_imp_iff, implies_true, and_true]
      exact ⟨bound _ (by omega) (by omega), bound _ (by omega) (by omega), bound _ (by omega) (by omega),
        bound _ (by omega) (by omega)⟩

end Utf8

namespace Url

theorem percent_decode_cons {octet : UInt8} (other : octet ≠ 0x25) (rest : Bytes) :
    percentDecode (octet :: rest) = octet :: percentDecode rest := by
  match rest with
  | [] => simp [percentDecode, other]
  | [_] => simp [percentDecode, other]
  | _ :: _ :: _ => rw [percentDecode, if_neg other]

theorem percent_decode_append (front rest : Bytes) (free : 0x25 ∉ front) :
    percentDecode (front ++ rest) = front ++ percentDecode rest := by
  induction front with
  | nil => rfl
  | cons octet front ih =>
      have other : octet ≠ 0x25 := fun percent => free (percent ▸ List.mem_cons_self)
      have later := ih fun member => free (List.mem_cons_of_mem _ member)
      rw [List.cons_append, percent_decode_cons other, later, List.cons_append]

theorem percent_decode_lone (rest : Bytes)
    (lone : ∀ high low rest', rest = high :: low :: rest' →
      hexValue? high.toNat = none ∨ hexValue? low.toNat = none) :
    percentDecode (0x25 :: rest) = 0x25 :: percentDecode rest := by
  match rest with
  | [] => rfl
  | [_] => simp [percentDecode]
  | high :: low :: rest' =>
      rw [percentDecode, if_pos rfl]
      split
      · cases lone high low rest' rfl <;> simp_all
      · rfl

theorem length_percent_decode (bytes : Bytes) : (percentDecode bytes).length ≤ bytes.length := by
  fun_induction percentDecode bytes <;> simp_all only [List.length_nil, List.length_cons] <;> omega

def octets (text : List Char) : Bytes :=
  percentDecode (Utf8.encode text)

def escape? : List Char → Option (UInt8 × List Char)
  | high :: low :: rest =>
      match hexValue? high.toNat, hexValue? low.toNat with
      | some h, some l => some (UInt8.ofNat (h * 16 + l), rest)
      | _, _ => none
  | _ => none

theorem value_of_octet {n : Nat} {octet : UInt8} (small : n < 0x100) (same : UInt8.ofNat n = octet) :
    n = octet.toNat := by
  rw [← same, UInt8.toNat_ofNat_of_lt' small]

theorem hex_is_ascii {n value : Nat} (hex : hexValue? n = some value) : n < 0x80 := by
  unfold hexValue? at hex
  split at hex
  · omega
  · split at hex
    · omega
    · split at hex
      · omega
      · cases hex

theorem escape_some_iff (text rest : List Char) (octet : UInt8) :
    escape? text = some (octet, rest) ↔
      ∃ high low h l, text = high :: low :: rest ∧ hexValue? high.toNat = some h ∧
        hexValue? low.toNat = some l ∧ UInt8.ofNat (h * 16 + l) = octet := by
  constructor
  · intro escape
    match text, escape with
    | high :: low :: text, escape =>
        simp only [escape?] at escape
        split at escape
        · rename_i h l first second
          obtain ⟨value, rfl⟩ := Prod.mk.inj (Option.some.inj escape)
          exact ⟨high, low, h, l, rfl, first, second, value⟩
        · cases escape
  · intro parts
    obtain ⟨high, low, h, l, rfl, first, second, rfl⟩ := parts
    simp only [escape?, first, second]

theorem length_octets (text : List Char) : (octets text).length ≤ (Utf8.encode text).length :=
  length_percent_decode _

-- Reading escapes only shortens, so no smaller part of a text stands for the whole of it.
theorem eq_of_octets_eq {part text : List Char} (within : List.Sublist part text)
    (same : octets part = Utf8.encode text) : part = text := by
  have shorter := length_octets part
  rw [same] at shorter
  exact Utf8.encode_injective ((Utf8.encode_sublist within).eq_of_length_le shorter)

theorem octets_nil : octets [] = [] := rfl

theorem octets_cons {c : Char} (other : c ≠ '%') (text : List Char) :
    octets (c :: text) = String.utf8EncodeChar c ++ octets text := by
  apply percent_decode_append
  intro percent
  by_cases ascii : c.toNat < 0x80
  · rw [Utf8.octets_of_ascii ascii, List.mem_singleton] at percent
    have same : c.toNat = 0x25 := value_of_octet (by omega) percent.symm
    exact other (Char.toNat_inj.mp same)
  · obtain ⟨first, second, rest, written, high⟩ := Utf8.octets_of_other (Nat.not_lt.mp ascii)
    rw [written] at percent
    exact absurd (high _ percent) (by decide)

theorem octets_of_free {text : List Char} (free : '%' ∉ text) : octets text = Utf8.encode text := by
  induction text with
  | nil => rfl
  | cons c text ih =>
      have other : c ≠ '%' := fun same => free (same ▸ List.mem_cons_self)
      have rest := ih fun member => free (List.mem_cons_of_mem c member)
      rw [octets_cons other, rest, Utf8.encode_cons]

theorem octets_escape {text rest : List Char} {octet : UInt8}
    (escape : escape? text = some (octet, rest)) : octets ('%' :: text) = octet :: octets rest := by
  obtain ⟨high, low, h, l, rfl, first, second, rfl⟩ := (escape_some_iff _ _ _).mp escape
  have highAscii := hex_is_ascii first
  have lowAscii := hex_is_ascii second
  have value (c : Char) (ascii : c.toNat < 0x80) : (UInt8.ofNat c.toNat).toNat = c.toNat :=
    UInt8.toNat_ofNat_of_lt' (Nat.lt_trans ascii (by decide))
  have percent : String.utf8EncodeChar '%' = [0x25] := by decide
  rw [octets, Utf8.encode_cons, Utf8.encode_cons, Utf8.encode_cons, percent,
    Utf8.octets_of_ascii highAscii, Utf8.octets_of_ascii lowAscii]
  simp only [List.cons_append, List.nil_append, percentDecode, if_true, value high highAscii,
    value low lowAscii, first, second]
  rfl

theorem first_octet (c : Char) :
    ∃ first rest, String.utf8EncodeChar c = first :: rest ∧
      hexValue? first.toNat = hexValue? c.toNat ∧ (hexValue? c.toNat ≠ none → rest = []) := by
  by_cases ascii : c.toNat < 0x80
  · refine ⟨_, _, Utf8.octets_of_ascii ascii, ?_, fun _ => rfl⟩
    rw [UInt8.toNat_ofNat_of_lt' (Nat.lt_trans ascii (by decide))]
  · obtain ⟨first, second, rest, written, high⟩ := Utf8.octets_of_other (Nat.not_lt.mp ascii)
    have noHex (n : Nat) (large : 0x80 ≤ n) : hexValue? n = none := by
      cases hex : hexValue? n with
      | none => rfl
      | some value => exact absurd (hex_is_ascii hex) (Nat.not_lt.mpr large)
    have none := noHex c.toNat (Nat.not_lt.mp ascii)
    refine ⟨first, second :: rest, written, ?_, fun some => absurd none some⟩
    rw [none, noHex _ (high first List.mem_cons_self)]

theorem escape_none {c : Char} (other : hexValue? c.toNat = none) (text : List Char) :
    escape? (c :: text) = none := by
  cases text with
  | nil => rfl
  | cons d text => simp [escape?, other]

theorem octets_lone {text : List Char} (lone : escape? text = none) :
    octets ('%' :: text) = 0x25 :: octets text := by
  have percent : Utf8.encode ('%' :: text) = 0x25 :: Utf8.encode text := rfl
  rw [octets, percent, octets]
  apply percent_decode_lone
  intro high low rest written
  cases text with
  | nil => cases written
  | cons c text =>
      obtain ⟨first, more, octetsOf, sameHex, single⟩ := first_octet c
      rw [Utf8.encode_cons, octetsOf, List.cons_append] at written
      obtain ⟨rfl, behind⟩ := List.cons.inj written
      by_cases digit : hexValue? c.toNat = none
      · exact .inl (sameHex.trans digit)
      rw [single digit, List.nil_append] at behind
      cases text with
      | nil => cases behind
      | cons d text =>
          obtain ⟨second, _, octetsOf', sameHex', -⟩ := first_octet d
          rw [Utf8.encode_cons, octetsOf', List.cons_append] at behind
          obtain ⟨rfl, -⟩ := List.cons.inj behind
          refine .inr (sameHex'.trans ?_)
          simp only [escape?] at lone
          split at lone
          · cases lone
          · cases right : hexValue? d.toNat with
            | none => rfl
            | some l =>
                obtain ⟨h, left⟩ := Option.ne_none_iff_exists'.mp digit
                simp_all

def EncodeSet.Transparent (set : EncodeSet) : Prop :=
  ∀ c ∈ set, c ≠ '%' ∧ hexValue? c.toNat = none

section

variable {set : EncodeSet} (transparent : set.Transparent)

include transparent in
theorem encode_char_percent : encodeChar set '%' = ['%'] := by
  have free : '%' ∉ set := fun member => (transparent '%' member).1 rfl
  rw [encodeChar, if_neg]
  simp [free]

include transparent in
theorem encode_char_digit {c : Char} (digit : hexValue? c.toNat ≠ none) : encodeChar set c = [c] := by
  have free : c ∉ set := fun member => digit (transparent c member).2
  have printable : 0x20 ≤ c.toNat ∧ c.toNat ≤ 0x7E := by
    simp only [hexValue?] at digit
    grind
  rw [encodeChar, if_neg]
  simp only [free, or_false, not_or]
  omega

theorem encode_char_other (set : EncodeSet) {c : Char} (other : hexValue? c.toNat = none) :
    ∃ first rest, encodeChar set c = first :: rest ∧ hexValue? first.toNat = none := by
  unfold encodeChar
  split
  · obtain ⟨first, rest, written, -⟩ := first_octet c
    rw [written]
    exact ⟨'%', _, rfl, rfl⟩
  · exact ⟨c, [], rfl, other⟩

theorem escape_encode_octet (octet : UInt8) (text : List Char) :
    ∃ high low, encodeOctet octet ++ text = '%' :: high :: low :: text ∧
      escape? (high :: low :: text) = some (octet, text) := by
  have value (n : Nat) (small : n < 16) : hexValue? (upperHex n).toNat = some n := by
    have all : ∀ n < 16, hexValue? (upperHex n).toNat = some n := by decide
    exact all n small
  have small := octet.toNat_lt
  refine ⟨_, _, rfl, ?_⟩
  rw [escape?, value _ (by omega), value _ (by omega)]
  simp only [Nat.div_add_mod', UInt8.ofNat_toNat]

theorem octets_encode_octets (bytes : Bytes) (text : List Char) :
    octets (bytes.flatMap encodeOctet ++ text) = bytes ++ octets text := by
  induction bytes with
  | nil => rfl
  | cons octet bytes ih =>
      obtain ⟨high, low, written, escape⟩ :=
        escape_encode_octet octet (bytes.flatMap encodeOctet ++ text)
      rw [List.flatMap_cons, List.append_assoc, written, octets_escape escape, ih, List.cons_append]

theorem octets_encode_char {c : Char} (other : c ≠ '%') (text : List Char) :
    octets (encodeChar set c ++ text) = String.utf8EncodeChar c ++ octets text := by
  unfold encodeChar
  split
  · exact octets_encode_octets _ text
  · exact octets_cons other text

theorem percent_encode_cons (c : Char) (text : List Char) :
    percentEncode set (c :: text) = encodeChar set c ++ percentEncode set text :=
  List.flatMap_cons

theorem escape_encode_other {c : Char} (other : hexValue? c.toNat = none) (text : List Char) :
    escape? (percentEncode set (c :: text)) = none := by
  obtain ⟨first, rest, encoded, noDigit⟩ := encode_char_other set other
  rw [percent_encode_cons, encoded]
  exact escape_none noDigit _

include transparent in
theorem escape_encode (text : List Char) :
    escape? (percentEncode set text) =
      (escape? text).map fun (octet, rest) => (octet, percentEncode set rest) := by
  cases text with
  | nil => rfl
  | cons high text =>
      by_cases first : hexValue? high.toNat = none
      · rw [escape_encode_other first, escape_none first, Option.map_none]
      rw [percent_encode_cons, encode_char_digit transparent first]
      cases text with
      | nil => rfl
      | cons low text =>
          by_cases second : hexValue? low.toNat = none
          · obtain ⟨c, rest, encoded, noDigit⟩ := encode_char_other set second
            rw [percent_encode_cons, encoded]
            simp [escape?, noDigit, second]
          · rw [percent_encode_cons, encode_char_digit transparent second]
            obtain ⟨h, left⟩ := Option.ne_none_iff_exists'.mp first
            obtain ⟨l, right⟩ := Option.ne_none_iff_exists'.mp second
            simp [escape?, left, right]

theorem escape_shorter {text rest : List Char} {octet : UInt8}
    (escape : escape? text = some (octet, rest)) : rest.length < text.length := by
  obtain ⟨high, low, _, _, rfl, -⟩ := (escape_some_iff _ _ _).mp escape
  simp only [List.length_cons]
  omega

include transparent in
theorem octets_percent_encode (text : List Char) : octets (percentEncode set text) = octets text := by
  match text with
  | [] => rfl
  | c :: text =>
      rw [percent_encode_cons]
      by_cases percent : c = '%'
      · rw [percent, encode_char_percent transparent, List.singleton_append]
        have encoded := escape_encode transparent text
        cases escape : escape? text with
        | none =>
            rw [escape, Option.map_none] at encoded
            rw [octets_lone encoded, octets_lone escape, octets_percent_encode text]
        | some read =>
            rw [escape, Option.map_some] at encoded
            have shorter := escape_shorter escape
            rw [octets_escape encoded, octets_escape escape, octets_percent_encode read.2]
      · rw [octets_encode_char percent, octets_cons percent, octets_percent_encode text]
termination_by text.length
decreasing_by
  all_goals simp only [List.length_cons]
  all_goals omega

end

def escapeChars : List Char := "%0123456789ABCDEF".toList

theorem mem_percent_encode {set : EncodeSet} {text : List Char} {c : Char}
    (member : c ∈ percentEncode set text) :
    (c ∈ text ∧ 0x20 ≤ c.toNat ∧ c.toNat ≤ 0x7E ∧ c ∉ set) ∨ c ∈ escapeChars := by
  obtain ⟨d, inText, written⟩ := List.mem_flatMap.mp member
  unfold encodeChar at written
  split at written
  · obtain ⟨octet, -, digit⟩ := List.mem_flatMap.mp written
    have digits : ∀ n < 16, upperHex n ∈ escapeChars := by decide
    have small := octet.toNat_lt
    simp only [encodeOctet, List.mem_cons, List.not_mem_nil, or_false] at digit
    obtain rfl | rfl | rfl := digit
    · exact .inr (by decide)
    · exact .inr (digits _ (by omega))
    · exact .inr (digits _ (by omega))
  · rename_i kept
    obtain rfl := List.mem_singleton.mp written
    simp only [not_or, Nat.not_lt] at kept
    exact .inl ⟨inText, kept.1, kept.2.1, kept.2.2⟩

theorem percent_encode_kept {set : EncodeSet} {text : List Char}
    (kept : ∀ c ∈ text, 0x20 ≤ c.toNat ∧ c.toNat ≤ 0x7E ∧ c ∉ set) : percentEncode set text = text := by
  induction text with
  | nil => rfl
  | cons c text ih =>
      obtain ⟨first, rest⟩ := List.forall_mem_cons.mp kept
      rw [percent_encode_cons, ih rest, encodeChar, if_neg, List.singleton_append]
      simp only [not_or, Nat.not_lt]
      exact first

theorem percent_encode_twice {set : EncodeSet} (free : ∀ c ∈ escapeChars, c ∉ set)
    (text : List Char) : percentEncode set (percentEncode set text) = percentEncode set text := by
  apply percent_encode_kept
  intro c member
  obtain ⟨-, kept⟩ | written := mem_percent_encode member
  · exact kept
  · have printable : ∀ c ∈ escapeChars, 0x20 ≤ c.toNat ∧ c.toNat ≤ 0x7E := forall_of_all (by decide)
    exact ⟨(printable c written).1, (printable c written).2, free c written⟩

end Url
end KeyCustody
