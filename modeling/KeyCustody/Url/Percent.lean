import KeyCustody.Text.Utf8

set_option autoImplicit false

namespace KeyCustody.Url

abbrev EncodeSet := List Char

namespace EncodeSet

def controls : EncodeSet := []

def fragment : EncodeSet := [' ', '"', '<', '>', '\x60']

def query : EncodeSet := [' ', '"', '#', '<', '>']

def specialQuery : EncodeSet := '\'' :: query

def path : EncodeSet := query ++ ['?', '\x60', '\x7b', '\x7d']

def userinfo : EncodeSet := path ++ ['/', ':', ';', '=', '@', '[', '\\', ']', '^', '|']

end EncodeSet

def upperHex (value : Nat) : Char :=
  if value < 10 then Char.ofNat ('0'.toNat + value) else Char.ofNat ('A'.toNat + (value - 10))

def encodeOctet (octet : UInt8) : List Char :=
  ['%', upperHex (octet.toNat / 16), upperHex (octet.toNat % 16)]

def encodeChar (set : EncodeSet) (c : Char) : List Char :=
  if c.toNat < 0x20 ∨ 0x7E < c.toNat ∨ c ∈ set then (String.utf8EncodeChar c).flatMap encodeOctet
  else [c]

def percentEncode (set : EncodeSet) (text : List Char) : List Char :=
  text.flatMap (encodeChar set)

def hexValue? (n : Nat) : Option Nat :=
  if 0x30 ≤ n ∧ n ≤ 0x39 then some (n - 0x30)
  else if 0x41 ≤ n ∧ n ≤ 0x46 then some (n - 0x41 + 10)
  else if 0x61 ≤ n ∧ n ≤ 0x66 then some (n - 0x61 + 10)
  else none

def percentDecode : Bytes → Bytes
  | [] => []
  | byte :: rest =>
      if byte = 0x25 then
        match rest with
        | high :: low :: rest' =>
            match hexValue? high.toNat, hexValue? low.toNat with
            | some h, some l => UInt8.ofNat (h * 16 + l) :: percentDecode rest'
            | _, _ => byte :: percentDecode (high :: low :: rest')
        | rest => byte :: percentDecode rest
      else byte :: percentDecode rest

end KeyCustody.Url
