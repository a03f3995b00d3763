import KeyCustody.Json.Basic

set_option autoImplicit false

namespace KeyCustody.Json

def hexDigit (value : Nat) : Char :=
  if value < 10 then Char.ofNat ('0'.toNat + value) else Char.ofNat ('a'.toNat + (value - 10))

def writeSymbol : Utf8.Symbol → List Char
  | none => "\\ud800".toList
  | some c =>
      if c = '"' then ['\\', '"']
      else if c = '\\' then ['\\', '\\']
      else if c = '\x08' then ['\\', 'b']
      else if c = '\x0c' then ['\\', 'f']
      else if c = '\n' then ['\\', 'n']
      else if c = '\r' then ['\\', 'r']
      else if c = '\t' then ['\\', 't']
      else if c.toNat < 0x20 then
        ['\\', 'u', '0', '0', hexDigit (c.toNat / 16), hexDigit (c.toNat % 16)]
      else [c]

def writeText (text : Text) : List Char :=
  '"' :: text.flatMap writeSymbol ++ ['"']

def writeNumber (number : Number) : List Char :=
  (if number.negative then ['-'] else []) ++ Nat.toDigits 10 number.whole ++ number.rest

mutual
def write : Json → List Char
  | .null => "null".toList
  | .bool true => "true".toList
  | .bool false => "false".toList
  | .number n => writeNumber n
  | .string text => writeText text
  | .array items => '[' :: writeItems items ++ [']']
  | .object members => '\x7b' :: writeMembers members ++ ['\x7d']

def writeItems : List Json → List Char
  | [] => []
  | [item] => write item
  | item :: rest => write item ++ ',' :: writeItems rest

def writeMembers : List (Text × Json) → List Char
  | [] => []
  | [(key, item)] => writeText key ++ ':' :: write item
  | (key, item) :: rest => writeText key ++ ':' :: write item ++ ',' :: writeMembers rest
end

def document (json : Json) : Bytes :=
  Utf8.encode (write json)

end KeyCustody.Json
