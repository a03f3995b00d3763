import KeyCustody.Wire.Codec
import KeyCustody.Proofs.DecimalText
import KeyCustody.Proofs.JsonReadBack

set_option autoImplicit false

namespace KeyCustody

theorem mapM_some_iff {α β : Type} (f : α → Option β) (items : List α) (values : List β) :
    items.mapM f = some values ↔ items.map f = values.map some := by
  induction items generalizing values with
  | nil =>
      rw [List.mapM_nil, List.map_nil, Option.pure_def, Option.some.injEq, eq_comm, eq_comm (a := []),
        List.map_eq_nil_iff]
  | cons item items ih =>
      simp only [List.mapM_cons, List.map_cons, Option.bind_eq_bind, Option.bind_eq_some_iff, ih]
      constructor
      · rintro ⟨value, read, rest, others, same⟩
        cases same
        rw [read, others]
        rfl
      · intro all
        cases values with
        | nil => cases all
        | cons value rest =>
            obtain ⟨read, others⟩ := List.cons.inj all
            exact ⟨value, read, rest, others, rfl⟩

theorem mapM_congr_left {α β : Type} {f g : α → Option β} {items : List α}
    (same : ∀ item ∈ items, f item = g item) : items.mapM f = items.mapM g := by
  apply Option.ext
  intro values
  rw [mapM_some_iff, mapM_some_iff, List.map_congr_left same]

theorem mapM_none {α β : Type} {f : α → Option β} {items : List α} {item : α} (listed : item ∈ items)
    (refused : f item = none) : items.mapM f = none := by
  apply Option.eq_none_iff_forall_ne_some.mpr
  intro values all
  have read := List.mem_map_of_mem (f := f) listed
  rw [(mapM_some_iff f items values).mp all, refused] at read
  simp at read

theorem Json.unicode_some_iff (text : Json.Text) (chars : List Char) :
    text.unicode? = some chars ↔ text = .of chars := by
  constructor
  · intro whole
    rw [Text.of, ← (mapM_some_iff id text chars).mp whole, List.map_id]
  · rintro rfl
    exact unicode_of chars

namespace Base64

theorem value_letter (value : Nat) (small : value < 64) : value? (letter value) = some value := by
  have all : ∀ value < 64, value? (letter value) = some value := by decide
  exact all value small

theorem letter_ne_pad (value : Nat) (small : value < 64) : letter value ≠ '=' := by
  intro pad
  have read := value_letter value small
  rw [pad] at read
  exact absurd read (by simp [value?])

theorem decode_triple (a b c d : Char) (rest : List Char) (unpadded : d ≠ '=') :
    decode? (a :: b :: c :: d :: rest) =
      (do
        let front ← triple? a b c d
        let back ← decode? rest
        some (front ++ back)) := by
  rw [decode?]
  · intro _ pad _
    exact unpadded pad
  · intro pad _
    exact unpadded pad

theorem decode_double (a b c : Char) (unpadded : c ≠ '=') :
    decode? [a, b, c, '='] = double? a b c := by
  rw [decode?]
  intro pad
  exact unpadded pad

theorem triple_letters (n : Nat) (small : n < 0x1000000) :
    triple? (letter (n / 262144)) (letter (n / 4096 % 64)) (letter (n / 64 % 64)) (letter (n % 64)) =
      some [UInt8.ofNat (n / 65536), UInt8.ofNat (n / 256), UInt8.ofNat n] := by
  have whole : ((n / 262144 * 64 + n / 4096 % 64) * 64 + n / 64 % 64) * 64 + n % 64 = n := by omega
  simp only [triple?, value_letter (n / 262144) (by omega),
    value_letter (n / 4096 % 64) (Nat.mod_lt _ (by decide)),
    value_letter (n / 64 % 64) (Nat.mod_lt _ (by decide)),
    value_letter (n % 64) (Nat.mod_lt _ (by decide)), Option.bind_eq_bind, Option.bind_some, whole]

theorem double_letters (n : Nat) (small : n < 0x10000) :
    double? (letter (n / 1024)) (letter (n / 16 % 64)) (letter (n % 16 * 4)) =
      some [UInt8.ofNat (n / 256), UInt8.ofNat n] := by
  have whole : (n / 1024 * 64 + n / 16 % 64) * 64 + n % 16 * 4 = n * 4 := by omega
  simp only [double?, value_letter (n / 1024) (by omega),
    value_letter (n / 16 % 64) (Nat.mod_lt _ (by decide)), value_letter (n % 16 * 4) (by omega),
    Option.bind_eq_bind, Option.bind_some, whole, Nat.mul_mod_left, if_true,
    show n * 4 / 1024 = n / 256 by omega, show n * 4 / 4 = n by omega]

theorem single_letters (n : Nat) (small : n < 0x100) :
    single? (letter (n / 4)) (letter (n % 4 * 16)) = some [UInt8.ofNat n] := by
  have whole : n / 4 * 64 + n % 4 * 16 = n * 16 := by omega
  simp only [single?, value_letter (n / 4) (by omega), value_letter (n % 4 * 16) (by omega),
    Option.bind_eq_bind, Option.bind_some, whole, Nat.mul_mod_left, if_true,
    show n * 16 / 16 = n by omega]

theorem octet_of_value (value : Nat) (octet : UInt8) (low : value % 256 = octet.toNat) :
    UInt8.ofNat value = octet := by
  apply UInt8.toNat_inj.mp
  rw [UInt8.toNat_ofNat', low]

theorem decode_encode (octets : Bytes) : decode? (encode octets) = some octets := by
  fun_induction encode octets with
  | case1 => rfl
  | case2 x n =>
      have small := x.toNat_lt
      rw [decode?, single_letters n small, octet_of_value n x (Nat.mod_eq_of_lt small)]
  | case3 x y n =>
      have high := x.toNat_lt
      have low := y.toNat_lt
      -- The third letter is no padding, so these four are not taken for a group of one octet.
      have last := letter_ne_pad (n % 16 * 4) (by omega)
      rw [decode_double _ _ _ last, double_letters n (by omega),
        octet_of_value (n / 256) x (by omega), octet_of_value n y (by omega)]
  | case4 x y z rest n ih =>
      have high := x.toNat_lt
      have middle := y.toNat_lt
      have low := z.toNat_lt
      have last := letter_ne_pad (n % 64) (by omega)
      rw [decode_triple _ _ _ _ _ last, triple_letters n (by omega), ih,
        octet_of_value (n / 65536) x (by omega), octet_of_value (n / 256) y (by omega),
        octet_of_value n z (by omega)]
      rfl

end Base64

namespace Decimal

theorem integer_to_string (n : Int) : integer? (toString n).toList = some n := by
  rw [Int.toString_eq_repr, Int.repr_eq_if]
  by_cases nonnegative : 0 ≤ n
  · have read := integer_signed none (.ofNat n.toNat)
    rw [Digits.value_of_nat] at read
    rw [if_pos nonnegative, Nat.toList_repr]
    exact read.trans (congrArg some (Int.toNat_of_nonneg nonnegative))
  · have minus : ("-" ++ (-n).toNat.repr).toList = '-' :: Nat.toDigits 10 (-n).toNat := by
      rw [String.toList_append, Nat.toList_repr]
      rfl
    have read := integer_signed (some .minus) (.ofNat (-n).toNat)
    rw [Digits.value_of_nat] at read
    rw [if_neg nonnegative, minus]
    refine read.trans (congrArg some ?_)
    simp only [Sign.applied]
    omega

theorem fit64_to_int (n : Int64) : fit64? n.toInt = some n := by
  rw [fit64?, Int64.ofInt_toInt, if_pos rfl]

end Decimal

namespace Wire.Codec

variable {α : Type}

structure Faithful (codec : Codec α) : Prop where
  present (value : α) : codec.write value ≠ .null
  writesItself (value : α) : Json.Reader.WritesItself (codec.write value)
  read (value : α) : codec.read? (codec.write value) = some value

theorem field_present (codec : Codec α) {value : Json} (present : value ≠ .null) :
    codec.field? value = (codec.read? value).map some := by
  rw [field?]
  exact present

theorem field_write_field (codec : Codec α) (faithful : codec.Faithful) (value : Option α) :
    codec.field? (codec.writeField value) = some value := by
  cases value with
  | none => rfl
  | some value =>
      rw [writeField, field_present codec (faithful.present value), faithful.read, Option.map_some]

theorem blob_faithful : blob.Faithful where
  present _ := Json.noConfusion
  writesItself _ := Json.Reader.string_writes_itself _
  read octets := by
    simp only [blob, Json.unicode_of, Option.bind_some, Base64.decode_encode]

theorem int64_faithful : int64.Faithful where
  present _ := Json.noConfusion
  writesItself _ := Json.Reader.string_writes_itself _
  read n := by
    simp only [int64, Json.unicode_of, Option.bind_some, Decimal.integer_to_string,
      Decimal.fit64_to_int]

theorem text_faithful : text.Faithful where
  present _ := Json.noConfusion
  writesItself _ := Json.Reader.string_writes_itself _
  read s := by
    simp only [text, Json.unicode_of, Option.map_some, String.ofList_toList]

theorem flag_faithful : flag.Faithful where
  present _ := Json.noConfusion
  writesItself := Json.Reader.bool_writes_itself
  read _ := rfl

end Wire.Codec
end KeyCustody
