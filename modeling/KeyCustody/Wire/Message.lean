import KeyCustody.Wire.Codec
import KeyCustody.Json.Reader
import KeyCustody.Json.Writer

set_option autoImplicit false

namespace KeyCustody.Wire

class Message (M : Type) where
  fields : List (String × Kind)
  distinct : (fields.map Prod.fst).Nodup
  ofRow : Row fields → M
  row : M → Row fields
  of_row (message : M) : ofRow (row message) = message
  row_of (values : Row fields) : row (ofRow values) = values

namespace Message

variable {M : Type} [Message M]

variable (M) in
def names : List String :=
  (fields M).map Prod.fst

def ofValues? (values : List Json) : Option M :=
  (Row.ofValues? (fields M) values).map ofRow

def values (message : M) : List Json :=
  Row.values (fields M) (row message)

-- The value of a member, null when it does not occur, none when it occurs twice.
def member? (members : List (Json.Text × Json)) (name : String) : Option Json :=
  match members.filter (·.1 = .of name.toList) with
  | [] => some .null
  | [(_, value)] => some value
  | _ => none

def ofJson? : Json → Option M
  | .object members => do
      if members.any fun member => member.1.unicode?.isNone then none
      else ofValues? (← (names M).mapM (member? members))
  | .array items =>
      let missing := (names M).length - items.length
      if items.length ≤ (names M).length then ofValues? (items ++ List.replicate missing .null)
      else none
  | _ => none

def isNull : Json → Bool
  | .null => true
  | _ => false

def members (message : M) : List (Json.Text × Json) :=
  (((names M).map fun name => Json.Text.of name.toList).zip (values message)).filter
    fun member => !isNull member.2

def toJson (message : M) : Json :=
  .object (members message)

def ofDocument? (document : Bytes) : Option M :=
  (Json.parse? document).bind ofJson?

def document (message : M) : Bytes :=
  (toJson message).document

end Message
end KeyCustody.Wire
