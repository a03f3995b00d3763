import Mathlib.Data.Nat.Digits.Defs
import KeyCustody.Proofs.FieldCodec

set_option autoImplicit false

namespace KeyCustody

theorem Bytes.to_nat_after (start : Nat) (bytes : Bytes) :
    bytes.foldl (fun value byte => value * 256 + byte.toNat) start =
      start * 256 ^ bytes.length + toNat bytes := by
  induction bytes generalizing start with
  | nil => simp [toNat]
  | cons byte bytes ih =>
      have alone : toNat (byte :: bytes) =
          (0 * 256 + byte.toNat) * 256 ^ bytes.length + toNat bytes := ih (0 * 256 + byte.toNat)
      rw [List.foldl_cons, ih, alone, List.length_cons, Nat.pow_succ]
      ring

namespace Base64

/-- The values of the letters that stand for the octets, and how many pads follow them: as many as
there are octets missing in the last group of three. -/
structure Spelling (octets : Bytes) where
  sixes : List Nat
  small : ∀ six ∈ sixes, six < 64
  pads : Nat
  few : pads < 3
  whole : 3 * (sixes.length + pads) = 4 * (octets.length + pads)
  value : Nat.ofDigits 64 sixes.reverse = Bytes.toNat octets * 4 ^ pads

namespace Spelling

variable {octets : Bytes}

def text (spelling : Spelling octets) : List Char :=
  spelling.sixes.map letter ++ List.replicate spelling.pads '='

theorem text_unique (a b : Spelling octets) : a.text = b.text := by
  have groups := a.whole.symm
  have others := b.whole
  have fewA := a.few
  have fewB := b.few
  have pads : a.pads = b.pads := by omega
  have lengths : a.sixes.length = b.sixes.length := by omega
  have values : Nat.ofDigits 64 a.sixes.reverse = Nat.ofDigits 64 b.sixes.reverse := by
    rw [a.value, b.value, pads]
  have digits : a.sixes.reverse = b.sixes.reverse := by
    apply Nat.ofDigits_inj_of_len_eq (by decide) _ _ _ values
    · rw [List.length_reverse, List.length_reverse, lengths]
    · exact fun six listed => a.small six (List.mem_reverse.mp listed)
    · exact fun six listed => b.small six (List.mem_reverse.mp listed)
  rw [text, text, List.reverse_inj.mp digits, pads]

theorem pow_length (spelling : Spelling octets) :
    64 ^ spelling.sixes.length = 256 ^ octets.length * 4 ^ spelling.pads := by
  have whole := spelling.whole
  have bits : 3 * spelling.sixes.length = 4 * octets.length + spelling.pads := by omega
  calc 64 ^ spelling.sixes.length
      = 4 ^ (3 * spelling.sixes.length) := by rw [Nat.pow_mul]
    _ = 4 ^ (4 * octets.length) * 4 ^ spelling.pads := by rw [bits, Nat.pow_add]
    _ = 256 ^ octets.length * 4 ^ spelling.pads := by rw [Nat.pow_mul]

def afterGroup (spelling : Spelling octets) (x y z : UInt8) : Spelling (x :: y :: z :: octets) :=
  let n := (x.toNat * 256 + y.toNat) * 256 + z.toNat
  { sixes := n / 262144 :: n / 4096 % 64 :: n / 64 % 64 :: n % 64 :: spelling.sixes
    small := by
      have high := x.toNat_lt
      have middle := y.toNat_lt
      have low := z.toNat_lt
      have first : n / 262144 < 64 := by omega
      simpa [first, Nat.mod_lt] using spelling.small
    pads := spelling.pads
    few := spelling.few
    whole := by
      have whole := spelling.whole
      simp only [List.length_cons]
      omega
    value := by
      have group : Nat.ofDigits 64 [n % 64, n / 64 % 64, n / 4096 % 64, n / 262144] = n := by
        simp [Nat.ofDigits_cons]
        omega
      have octets : Bytes.toNat (x :: y :: z :: octets) =
          n * 256 ^ octets.length + Bytes.toNat octets := by
        rw [← Bytes.to_nat_after]
        simp [Bytes.toNat, n]
      have sixes : (n / 262144 :: n / 4096 % 64 :: n / 64 % 64 :: n % 64 :: spelling.sixes).reverse =
          spelling.sixes.reverse ++ [n % 64, n / 64 % 64, n / 4096 % 64, n / 262144] := by simp
      rw [sixes, Nat.ofDigits_append, group, spelling.value, List.length_reverse, spelling.pow_length,
        octets]
      ring }

end Spelling

theorem encode_spelled (octets : Bytes) :
    ∃ spelling : Spelling octets, encode octets = spelling.text := by
  fun_induction encode octets with
  | case1 => exact ⟨⟨[], by simp, 0, by decide, rfl, rfl⟩, rfl⟩
  | case2 x n =>
      have small := x.toNat_lt
      refine ⟨⟨[n / 4, n % 4 * 16], ?_, 2, by decide, rfl, ?_⟩, rfl⟩
      · simp; omega
      · simp [Nat.ofDigits_cons, Bytes.toNat]
        omega
  | case3 x y n =>
      have high := x.toNat_lt
      have low := y.toNat_lt
      refine ⟨⟨[n / 1024, n / 16 % 64, n % 16 * 4], ?_, 1, by decide, rfl, ?_⟩, rfl⟩
      · simp; omega
      · simp [Nat.ofDigits_cons, Bytes.toNat]
        omega
  | case4 x y z rest n ih =>
      obtain ⟨spelling, text⟩ := ih
      refine ⟨spelling.afterGroup x y z, ?_⟩
      rw [text]
      rfl

theorem char_of_place {c : Char} {first : Nat} (low : first ≤ c.toNat) :
    Char.ofNat (first + (c.toNat - first)) = c := by
  rw [Nat.add_sub_cancel' low, Char.ofNat_toNat]

theorem letter_of_value {c : Char} {value : Nat} (read : value? c = some value) :
    value < 64 ∧ letter value = c := by
  unfold value? at read
  -- One case for each run of the alphabet, in which a letter's place counts from the run's first.
  split at read
  · rename_i within
    obtain ⟨low, high⟩ : 65 ≤ c.toNat ∧ c.toNat ≤ 90 := within
    obtain rfl : c.toNat - 65 = value := Option.some.inj read
    have place : c.toNat - 65 < 26 := by omega
    rw [letter, if_pos place]
    exact ⟨by omega, char_of_place low⟩
  split at read
  · rename_i within
    obtain ⟨low, high⟩ : 97 ≤ c.toNat ∧ c.toNat ≤ 122 := within
    obtain rfl : c.toNat - 97 + 26 = value := Option.some.inj read
    have place : c.toNat - 97 + 26 < 52 := by omega
    rw [letter, if_neg (by omega), if_pos place, Nat.add_sub_cancel]
    exact ⟨by omega, char_of_place low⟩
  split at read
  · rename_i within
    obtain ⟨low, high⟩ : 48 ≤ c.toNat ∧ c.toNat ≤ 57 := within
    obtain rfl : c.toNat - 48 + 52 = value := Option.some.inj read
    have place : c.toNat - 48 + 52 < 62 := by omega
    rw [letter, if_neg (by omega), if_neg (by omega), if_pos place, Nat.add_sub_cancel]
    exact ⟨by omega, char_of_place low⟩
  split at read
  · rename_i plus
    obtain rfl : 62 = value := Option.some.inj read
    exact ⟨by decide, plus.symm⟩
  split at read
  · rename_i slash
    obtain rfl : 63 = value := Option.some.inj read
    exact ⟨by decide, slash.symm⟩
  · cases read

theorem single_spelled {a b : Char} {octets : Bytes} (read : single? a b = some octets) :
    encode octets = [a, b, '=', '='] := by
  simp only [single?, Option.bind_eq_bind, Option.bind_eq_some_iff, Option.ite_none_right_eq_some,
    Option.some.injEq] at read
  obtain ⟨first, readA, second, readB, unused, rfl⟩ := read
  obtain ⟨smallA, rfl⟩ := letter_of_value readA
  obtain ⟨smallB, rfl⟩ := letter_of_value readB
  have number : (UInt8.ofNat ((first * 64 + second) / 16)).toNat = (first * 64 + second) / 16 := by
    rw [UInt8.toNat_ofNat']
    omega
  simp only [encode, number]
  rw [show (first * 64 + second) / 16 / 4 = first by omega,
    show (first * 64 + second) / 16 % 4 * 16 = second by omega]

theorem double_spelled {a b c : Char} {octets : Bytes} (read : double? a b c = some octets) :
    encode octets = [a, b, c, '='] := by
  simp only [double?, Option.bind_eq_bind, Option.bind_eq_some_iff, Option.ite_none_right_eq_some,
    Option.some.injEq] at read
  obtain ⟨first, readA, second, readB, third, readC, unused, rfl⟩ := read
  obtain ⟨smallA, rfl⟩ := letter_of_value readA
  obtain ⟨smallB, rfl⟩ := letter_of_value readB
  obtain ⟨smallC, rfl⟩ := letter_of_value readC
  generalize whole : (first * 64 + second) * 64 + third = n at unused ⊢
  have number : (UInt8.ofNat (n / 1024)).toNat * 256 + (UInt8.ofNat (n / 4)).toNat = n / 4 := by
    rw [UInt8.toNat_ofNat', UInt8.toNat_ofNat']
    omega
  simp only [encode, number]
  rw [show n / 4 / 1024 = first by omega, show n / 4 / 16 % 64 = second by omega,
    show n / 4 % 16 * 4 = third by omega]

theorem triple_spelled {a b c d : Char} {front : Bytes} (read : triple? a b c d = some front)
    (back : Bytes) : encode (front ++ back) = a :: b :: c :: d :: encode back := by
  simp only [triple?, Option.bind_eq_bind, Option.bind_eq_some_iff, Option.some.injEq] at read
  obtain ⟨first, readA, second, readB, third, readC, fourth, readD, rfl⟩ := read
  obtain ⟨smallA, rfl⟩ := letter_of_value readA
  obtain ⟨smallB, rfl⟩ := letter_of_value readB
  obtain ⟨smallC, rfl⟩ := letter_of_value readC
  obtain ⟨smallD, rfl⟩ := letter_of_value readD
  generalize whole : ((first * 64 + second) * 64 + third) * 64 + fourth = n
  have number : ((UInt8.ofNat (n / 65536)).toNat * 256 + (UInt8.ofNat (n / 256)).toNat) * 256 +
      (UInt8.ofNat n).toNat = n := by
    rw [UInt8.toNat_ofNat', UInt8.toNat_ofNat', UInt8.toNat_ofNat']
    omega
  simp only [List.cons_append, List.nil_append, encode, number]
  rw [show n / 262144 = first by omega, show n / 4096 % 64 = second by omega,
    show n / 64 % 64 = third by omega, show n % 64 = fourth by omega]

theorem encode_of_decode {text : List Char} {octets : Bytes} (read : decode? text = some octets) :
    encode octets = text := by
  fun_induction decode? text generalizing octets with
  | case1 =>
      cases read
      rfl
  | case2 a b => exact single_spelled read
  | case3 a b c _ => exact double_spelled read
  | case4 a b c d rest _ _ ih =>
      simp only [Option.bind_eq_bind, Option.bind_eq_some_iff, Option.some.injEq] at read
      obtain ⟨front, group, back, others, rfl⟩ := read
      rw [triple_spelled group, ih others]
  | case5 => cases read

theorem decode_some_iff (text : List Char) (octets : Bytes) :
    decode? text = some octets ↔ text = encode octets := by
  constructor
  · intro read
    exact (encode_of_decode read).symm
  · rintro rfl
    exact decode_encode octets

theorem spelled_iff (text : List Char) (octets : Bytes) :
    (∃ spelling : Spelling octets, text = spelling.text) ↔ text = encode octets := by
  obtain ⟨written, same⟩ := encode_spelled octets
  constructor
  · rintro ⟨spelling, rfl⟩
    rw [same, spelling.text_unique written]
  · rintro rfl
    exact ⟨written, same⟩

end Base64

namespace Wire.Codec

theorem blob_read_iff (value : Json) (octets : Bytes) :
    blob.read? value = some octets ↔ value = blob.write octets := by
  constructor
  · intro read
    cases value with
    | string text =>
        obtain ⟨chars, whole, decoded⟩ := Option.bind_eq_some_iff.mp read
        obtain rfl := (Json.unicode_some_iff text chars).mp whole
        obtain rfl := (Base64.decode_some_iff chars octets).mp decoded
        rfl
    | _ => cases read
  · rintro rfl
    exact blob_faithful.read octets

theorem blob_field_iff (value : Json) (field : Option Bytes) :
    blob.field? value = some field ↔ value = blob.writeField field := by
  constructor
  · intro read
    by_cases absent : value = .null
    · subst absent
      cases read
      rfl
    · rw [field_present blob absent] at read
      obtain ⟨octets, decoded, rfl⟩ := Option.map_eq_some_iff.mp read
      exact (blob_read_iff value octets).mp decoded
  · rintro rfl
    exact field_write_field blob blob_faithful field

theorem blob_text_iff (octets : Bytes) (text : List Char) :
    blob.read? (.string (.of text)) = some octets ↔ text = Base64.encode octets := by
  rw [← Base64.decode_some_iff]
  simp only [blob, Json.unicode_of, Option.bind_some]

theorem blobs_spelled_once :
    (List.range 64).map Base64.letter =
      "ABCDEFGHIJKLMNOPQRSTUVWXYZabcdefghijklmnopqrstuvwxyz0123456789+/".toList ∧
    (∀ value field, blob.field? value = some field ↔ value = blob.writeField field) ∧
    (∀ octets text, blob.read? (.string (.of text)) = some octets ↔
      ∃ spelling : Base64.Spelling octets, text = spelling.text) ∧
    ∀ octets, ∃! text, blob.read? (.string (.of text)) = some octets := by
  refine ⟨by decide, blob_field_iff, ?_, ?_⟩
  · intro octets text
    rw [blob_text_iff, Base64.spelled_iff]
  · intro octets
    refine ⟨Base64.encode octets, (blob_text_iff octets _).mpr rfl, ?_⟩
    intro text read
    exact (blob_text_iff octets text).mp read

example : Base64.decode? "_w==".toList = none ∧ Base64.decode? "/x==".toList = none ∧
    Base64.decode? "/w".toList = none ∧ Base64.decode? "/w==".toList = some [255] := by
  decide

end Wire.Codec
end KeyCustody
