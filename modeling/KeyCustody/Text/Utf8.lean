import KeyCustody.Bytes

set_option autoImplicit false

namespace KeyCustody.Utf8

abbrev Symbol := Option Char

def encode (text : List Char) : Bytes :=
  text.flatMap String.utf8EncodeChar

-- A character whose first octets have been read: its value so far, the range of the next octet,
-- and how many octets follow that one.
structure Begun where
  value : Nat
  low : Nat
  high : Nat
  more : Nat

def lead (octet : Nat) : List Symbol × Option Begun :=
  if octet < 0x80 then ([some (Char.ofNat octet)], none)
  else if octet < 0xC2 then ([none], none)
  else if octet < 0xE0 then ([], some ⟨octet - 0xC0, 0x80, 0xBF, 0⟩)
  else if octet < 0xF0 then
    ([], some ⟨octet - 0xE0, if octet = 0xE0 then 0xA0 else 0x80, if octet = 0xED then 0x9F else 0xBF, 1⟩)
  else if octet < 0xF5 then
    ([], some ⟨octet - 0xF0, if octet = 0xF0 then 0x90 else 0x80, if octet = 0xF4 then 0x8F else 0xBF, 2⟩)
  else ([none], none)

def Begun.next (begun : Begun) (octet : Nat) : Option (List Symbol × Option Begun) :=
  if begun.low ≤ octet ∧ octet ≤ begun.high then
    let value := begun.value * 64 + (octet - 0x80)
    match begun.more with
    | 0 => some ([some (Char.ofNat value)], none)
    | more + 1 => some ([], some ⟨value, 0x80, 0xBF, more⟩)
  else none

def read : Option Begun → Bytes → List Symbol
  | none, [] => []
  | some _, [] => [none]
  | none, byte :: rest =>
      let step := lead byte.toNat
      step.1 ++ read step.2 rest
  | some begun, byte :: rest =>
      match begun.next byte.toNat with
      | some step => step.1 ++ read step.2 rest
      | none =>
          let step := lead byte.toNat
          none :: (step.1 ++ read step.2 rest)

def decode (bytes : Bytes) : List Symbol :=
  read none bytes

def whole? (symbols : List Symbol) : Option (List Char) :=
  symbols.mapM id

def decode? (bytes : Bytes) : Option (List Char) :=
  whole? (decode bytes)

theorem read_lead (octet : Nat) (small : octet < 256) (rest : Bytes) :
    read none (UInt8.ofNat octet :: rest) = (lead octet).1 ++ read (lead octet).2 rest := by
  simp only [read, UInt8.toNat_ofNat', Nat.mod_eq_of_lt small]

theorem read_next (begun : Begun) (octet : Nat) (rest : Bytes) (small : octet < 256)
    (within : begun.low ≤ octet ∧ octet ≤ begun.high) :
    read (some begun) (UInt8.ofNat octet :: rest) =
      match begun.more with
      | 0 => some (Char.ofNat (begun.value * 64 + (octet - 0x80))) :: read none rest
      | more + 1 => read (some ⟨begun.value * 64 + (octet - 0x80), 0x80, 0xBF, more⟩) rest := by
  cases more : begun.more <;>
    simp [read, Begun.next, UInt8.toNat_ofNat', Nat.mod_eq_of_lt small, within, more]

theorem read_two (v : Nat) (low : 0x80 ≤ v) (high : v < 0x800) (rest : Bytes) :
    read none (UInt8.ofNat (v / 64 % 0x20 + 0xC0) :: UInt8.ofNat (v % 0x40 + 0x80) :: rest) =
      some (Char.ofNat v) :: read none rest := by
  rw [read_lead _ (by omega), lead, if_neg (by omega), if_neg (by omega), if_pos (by omega)]
  simp only [List.nil_append]
  rw [read_next _ _ _ (by omega) (by simp only; omega)]
  simp only
  rw [show (v / 64 % 0x20 + 0xC0 - 0xC0) * 64 + (v % 0x40 + 0x80 - 0x80) = v by omega]

theorem read_three (v : Nat) (low : 0x800 ≤ v) (high : v < 0x10000)
    (valid : v < 0xD800 ∨ 0xDFFF < v) (rest : Bytes) :
    read none (UInt8.ofNat (v / 4096 % 0x10 + 0xE0) :: UInt8.ofNat (v / 64 % 0x40 + 0x80) ::
      UInt8.ofNat (v % 0x40 + 0x80) :: rest) = some (Char.ofNat v) :: read none rest := by
  rw [read_lead _ (by omega), lead, if_neg (by omega), if_neg (by omega), if_neg (by omega),
    if_pos (by omega)]
  simp only [List.nil_append]
  rw [read_next _ _ _ (by omega) (by simp only; split <;> split <;> omega)]
  simp only
  rw [read_next _ _ _ (by omega) (by simp only; omega)]
  simp only
  rw [show ((v / 4096 % 0x10 + 0xE0 - 0xE0) * 64 + (v / 64 % 0x40 + 0x80 - 0x80)) * 64 +
    (v % 0x40 + 0x80 - 0x80) = v by omega]

theorem read_four (v : Nat) (low : 0x10000 ≤ v) (high : v < 0x110000) (rest : Bytes) :
    read none (UInt8.ofNat (v / 262144 % 0x08 + 0xF0) :: UInt8.ofNat (v / 4096 % 0x40 + 0x80) ::
      UInt8.ofNat (v / 64 % 0x40 + 0x80) :: UInt8.ofNat (v % 0x40 + 0x80) :: rest) =
        some (Char.ofNat v) :: read none rest := by
  rw [read_lead _ (by omega), lead, if_neg (by omega), if_neg (by omega), if_neg (by omega),
    if_neg (by omega), if_pos (by omega)]
  simp only [List.nil_append]
  rw [read_next _ _ _ (by omega) (by simp only; split <;> split <;> omega)]
  simp only
  rw [read_next _ _ _ (by omega) (by simp only; omega)]
  simp only
  rw [read_next _ _ _ (by omega) (by simp only; omega)]
  simp only
  rw [show (((v / 262144 % 0x08 + 0xF0 - 0xF0) * 64 + (v / 4096 % 0x40 + 0x80 - 0x80)) * 64 +
    (v / 64 % 0x40 + 0x80 - 0x80)) * 64 + (v % 0x40 + 0x80 - 0x80) = v by omega]

theorem read_char (c : Char) (rest : Bytes) :
    read none (String.utf8EncodeChar c ++ rest) = some c :: read none rest := by
  have same : Char.ofNat c.val.toNat = c := Char.ofNat_toNat c
  have valid : c.val.toNat < 0xD800 ∨ 0xDFFF < c.val.toNat ∧ c.val.toNat < 0x110000 := c.valid
  unfold String.utf8EncodeChar
  generalize c.val.toNat = v at same valid
  subst same
  by_cases one : v ≤ 0x7F
  · rw [if_pos one, List.cons_append, read_lead _ (by omega)]
    simp [lead, show v < 0x80 by omega]
  rw [if_neg one]
  by_cases two : v ≤ 0x7FF
  · rw [if_pos two]
    exact read_two v (by omega) (by omega) rest
  rw [if_neg two]
  by_cases three : v ≤ 0xFFFF
  · rw [if_pos three]
    exact read_three v (by omega) (by omega) (by omega) rest
  rw [if_neg three]
  exact read_four v (by omega) (by omega) rest

theorem decode_encode (text : List Char) : decode (encode text) = text.map some := by
  induction text with
  | nil => rfl
  | cons c text ih =>
      simp only [decode, encode, List.flatMap_cons, List.map_cons] at ih ⊢
      rw [read_char, ih]

theorem whole_map_some (text : List Char) : whole? (text.map some) = some text := by
  induction text with
  | nil => rfl
  | cons c text ih => simp_all [whole?, List.mapM_cons]

theorem whole_decode_encode (text : List Char) : decode? (encode text) = some text := by
  rw [decode?, decode_encode, whole_map_some]

theorem encode_injective {a b : List Char} (same : encode a = encode b) : a = b := by
  have read := whole_decode_encode a
  rw [same, whole_decode_encode] at read
  exact (Option.some.inj read).symm

end KeyCustody.Utf8
