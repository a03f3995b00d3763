import KeyCustody.Text.Utf8

set_option autoImplicit false

namespace KeyCustody

namespace Json

abbrev Text := List Utf8.Symbol

def Text.unicode? (text : Text) : Option (List Char) :=
  Utf8.whole? text

def Text.of (chars : List Char) : Text :=
  chars.map some

structure Number where
  negative : Bool
  whole : Nat
  rest : List Char
  deriving DecidableEq

end Json

inductive Json where
  | null
  | bool (value : Bool)
  | number (value : Json.Number)
  | string (text : Json.Text)
  | array (items : List Json)
  | object (members : List (Json.Text × Json))

namespace Json

theorem unicode_of (chars : List Char) : (Text.of chars).unicode? = some chars :=
  Utf8.whole_map_some chars

end Json
end KeyCustody
