import KeyCustody.Bytes

set_option autoImplicit false

namespace KeyCustody.Aes

abbrev Block := BitVec 128

def double (x : UInt8) : UInt8 :=
  if x < 0x80 then x <<< 1 else (x <<< 1) ^^^ 0x1b

def times : Nat → UInt8 → UInt8 → UInt8
  | 0, _, _ => 0
  | bits + 1, x, y => (if y % 2 = 1 then x else 0) ^^^ times bits (double x) (y >>> 1)

def inverse (x : UInt8) : UInt8 :=
  (List.range 254).foldl (fun power _ => times 8 power x) 1

def rotate (x : UInt8) (amount : UInt8) : UInt8 :=
  (x <<< amount) ||| (x >>> (8 - amount))

def substitute (x : UInt8) : UInt8 :=
  let y := inverse x
  y ^^^ rotate y 1 ^^^ rotate y 2 ^^^ rotate y 3 ^^^ rotate y 4 ^^^ 0x63

def table : Array UInt8 :=
  ((List.range 256).map fun x => substitute (UInt8.ofNat x)).toArray

def sub (bytes : Bytes) : Bytes :=
  bytes.map fun x => table.getD x.toNat 0

def shiftRows (bytes : Bytes) : Bytes :=
  [0, 5, 10, 15, 4, 9, 14, 3, 8, 13, 2, 7, 12, 1, 6, 11].map (bytes.getD · 0)

def mixColumns : Bytes → Bytes
  | a :: b :: c :: d :: rest =>
      let all := a ^^^ b ^^^ c ^^^ d
      (a ^^^ all ^^^ double (a ^^^ b)) :: (b ^^^ all ^^^ double (b ^^^ c)) ::
        (c ^^^ all ^^^ double (c ^^^ d)) :: (d ^^^ all ^^^ double (d ^^^ a)) :: mixColumns rest
  | _ => []

def nextKey (constant : UInt8) (key : Bytes) : Bytes :=
  let turned := sub ((key.drop 13).take 3 ++ (key.drop 12).take 1)
  let first := Bytes.xor (key.take 4) (Bytes.xor turned [constant, 0, 0, 0])
  let second := Bytes.xor ((key.drop 4).take 4) first
  let third := Bytes.xor ((key.drop 8).take 4) second
  let fourth := Bytes.xor (key.drop 12) third
  first ++ second ++ third ++ fourth

def roundKeys : Nat → UInt8 → Bytes → List Bytes
  | 0, _, _ => []
  | rounds + 1, constant, key =>
      let next := nextKey constant key
      next :: roundKeys rounds (double constant) next

def rounds : List Bytes → Bytes → Bytes
  | [], state => state
  | [key], state => Bytes.xor (shiftRows (sub state)) key
  | key :: rest, state => rounds rest (Bytes.xor (mixColumns (shiftRows (sub state))) key)

def schedule (key : Block) : List Bytes :=
  let key := Bytes.ofNat 16 key.toNat
  key :: roundKeys 10 1 key

def encryptBlock (schedule : List Bytes) (block : Block) : Block :=
  match schedule with
  | [] => block
  | key :: rest =>
      BitVec.ofNat 128 (Bytes.toNat (rounds rest (Bytes.xor (Bytes.ofNat 16 block.toNat) key)))

end KeyCustody.Aes
