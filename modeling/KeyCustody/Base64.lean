import KeyCustody.Bytes

set_option autoImplicit false

namespace KeyCustody.Base64

def letter (value : Nat) : Char :=
  if value < 26 then Char.ofNat ('A'.toNat + value)
  else if value < 52 then Char.ofNat ('a'.toNat + (value - 26))
  else if value < 62 then Char.ofNat ('0'.toNat + (value - 52))
  else if value = 62 then '+' else '/'

def value? (c : Char) : Option Nat :=
  if 'A' ≤ c ∧ c ≤ 'Z' then some (c.toNat - 'A'.toNat)
  else if 'a' ≤ c ∧ c ≤ 'z' then some (c.toNat - 'a'.toNat + 26)
  else if '0' ≤ c ∧ c ≤ '9' then some (c.toNat - '0'.toNat + 52)
  else if c = '+' then some 62
  else if c = '/' then some 63
  else none

def encode : Bytes → List Char
  | [] => []
  | [x] =>
      let n := x.toNat
      [letter (n / 4), letter (n % 4 * 16), '=', '=']
  | [x, y] =>
      let n := x.toNat * 256 + y.toNat
      [letter (n / 1024), letter (n / 16 % 64), letter (n % 16 * 4), '=']
  | x :: y :: z :: rest =>
      let n := (x.toNat * 256 + y.toNat) * 256 + z.toNat
      letter (n / 262144) :: letter (n / 4096 % 64) :: letter (n / 64 % 64) :: letter (n % 64) ::
        encode rest

def triple? (a b c d : Char) : Option Bytes := do
  let n := (((← value? a) * 64 + (← value? b)) * 64 + (← value? c)) * 64 + (← value? d)
  some [UInt8.ofNat (n / 65536), UInt8.ofNat (n / 256), UInt8.ofNat n]

def double? (a b c : Char) : Option Bytes := do
  let n := ((← value? a) * 64 + (← value? b)) * 64 + (← value? c)
  if n % 4 = 0 then some [UInt8.ofNat (n / 1024), UInt8.ofNat (n / 4)] else none

def single? (a b : Char) : Option Bytes := do
  let n := (← value? a) * 64 + (← value? b)
  if n % 16 = 0 then some [UInt8.ofNat (n / 16)] else none

def decode? : List Char → Option Bytes
  | [] => some []
  | [a, b, '=', '='] => single? a b
  | [a, b, c, '='] => double? a b c
  | a :: b :: c :: d :: rest => do
      let front ← triple? a b c d
      let back ← decode? rest
      some (front ++ back)
  | _ => none

end KeyCustody.Base64
