import KeyCustody.Domain.Mapping
import KeyCustody.Domain.Punycode
import KeyCustody.Text.Composed
import KeyCustody.Text.Direction
import KeyCustody.Text.Joining
import KeyCustody.Text.Mark

set_option autoImplicit false

namespace KeyCustody.Domain

structure Label where
  shown : List Char
  written : List Char

def isAscii (text : List Char) : Bool :=
  text.all fun c => c.toNat < 0x80

def isForbidden (c : Char) : Bool :=
  c.toNat ≤ 0x20 || c.toNat = 0x7F || "#/:<>?@[\\]^|%".toList.contains c

def encodedMark : List Char := "xn--".toList

def maxShown : Nat := 1000

def maxWritten : Nat := 2000

namespace Label

def isAllowed (shown : List Char) : Bool :=
  !shown.any isForbidden && !(shown.head?.any Mark.isMark) && Joining.shows [] shown &&
    (isAscii shown || shown.length ≤ maxShown)

def isSettled (shown : List Char) : Bool :=
  shown.all (fun c => mapChar? c = some [c]) && Composed.compose shown = shown

def ofWritten? (written : List Char) : Option Label :=
  let body := written.drop encodedMark.length
  if isAscii written ∧ body.length ≤ maxWritten then
    match Punycode.decode? body with
    | some shown =>
        if !isAscii shown && isSettled shown && isAllowed shown then some ⟨shown, written⟩ else none
    | none => none
  else none

def ofText? (text : List Char) : Option Label :=
  if encodedMark.isPrefixOf text then ofWritten? text
  else if isAllowed text then
    some ⟨text, if isAscii text then text else encodedMark ++ Punycode.encode text⟩
  else none

end Label

def labels? (text : List Char) : Option (List Label) :=
  if isAscii text then (Label.ofText? (text.map Char.toLower)).map ([·])
  else do
    let mapped ← text.mapM mapChar?
    (List.splitOn '.' (Composed.compose mapped.flatten)).mapM Label.ofText?

def ascii? (name : List Char) : Option (List Char) := do
  let labels := (← (List.splitOn '.' name).mapM labels?).flatten
  if (labels.any fun label => label.shown.any Direction.turns) &&
      !labels.all fun label => Direction.keeps label.shown then none
  else some (List.intercalate ['.'] (labels.map Label.written))

end KeyCustody.Domain
