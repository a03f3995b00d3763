import KeyCustody.Base64
import KeyCustody.Text.Decimal
import KeyCustody.Json.Basic

set_option autoImplicit false

namespace KeyCustody.Wire

structure Codec (α : Type) where
  read? : Json → Option α
  write : α → Json

namespace Codec

def blob : Codec Bytes where
  read?
    | .string text => text.unicode?.bind Base64.decode?
    | _ => none
  write bytes := .string (.of (Base64.encode bytes))

-- The integer that a number literal stands for; minus zero is none.
def integer? (number : Json.Number) : Option Int :=
  if number.rest ≠ [] ∨ number.negative ∧ number.whole = 0 then none
  else some (if number.negative then -number.whole else number.whole)

def int64 : Codec Int64 where
  read?
    | .number number => (integer? number).bind Decimal.fit64?
    | .string text => (text.unicode?.bind Decimal.integer?).bind Decimal.fit64?
    | _ => none
  write n := .string (.of (toString n.toInt).toList)

def text : Codec String where
  read?
    | .string text => text.unicode?.map String.ofList
    | _ => none
  write s := .string (.of s.toList)

def flag : Codec Bool where
  read?
    | .bool value => some value
    | _ => none
  write := .bool

variable {α : Type}

def field? (codec : Codec α) : Json → Option (Option α)
  | .null => some none
  | json => (codec.read? json).map some

def writeField (codec : Codec α) : Option α → Json
  | none => .null
  | some value => codec.write value

end Codec

inductive Kind where
  | blob
  | int64
  | text
  | flag

namespace Kind

abbrev Value : Kind → Type
  | blob => Bytes
  | int64 => Int64
  | text => String
  | flag => Bool

def codec : (kind : Kind) → Codec kind.Value
  | blob => .blob
  | int64 => .int64
  | text => .text
  | flag => .flag

end Kind

abbrev Row : List (String × Kind) → Type
  | [] => Unit
  | (_, kind) :: fields => Option kind.Value × Row fields

namespace Row

def ofValues? : (fields : List (String × Kind)) → List Json → Option (Row fields)
  | [], [] => some ()
  | (_, kind) :: fields, value :: values => do
      let first ← kind.codec.field? value
      let rest ← ofValues? fields values
      some (first, rest)
  | _, _ => none

def values : (fields : List (String × Kind)) → Row fields → List Json
  | [], _ => []
  | (_, kind) :: fields, (first, rest) => kind.codec.writeField first :: values fields rest

end Row
end KeyCustody.Wire
