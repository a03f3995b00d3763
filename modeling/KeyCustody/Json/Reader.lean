import KeyCustody.Json.Basic

set_option autoImplicit false

namespace KeyCustody.Json

open Utf8 (Symbol)

abbrev Reader (α : Type) := List Symbol → Option (α × List Symbol)

namespace Reader

def isBlank : Symbol → Bool
  | some c => c = ' ' || c = '\n' || c = '\t' || c = '\r'
  | none => false

def skip (s : List Symbol) : List Symbol :=
  s.dropWhile isBlank

def isDigit : Symbol → Bool
  | some c => '0' ≤ c && c ≤ '9'
  | none => false

def digits (s : List Symbol) : List Char × List Symbol :=
  ((s.takeWhile isDigit).filterMap id, s.dropWhile isDigit)

def digits1 : Reader (List Char) := fun s =>
  match digits s with
  | ([], _) => none
  | read => some read

def fraction : Reader (List Char)
  | some '.' :: s => (digits1 s).map fun (ds, rest) => ('.' :: ds, rest)
  | s => some ([], s)

def exponent : Reader (List Char)
  | some e :: s =>
      if e = 'e' ∨ e = 'E' then
        match s with
        | some '+' :: s => (digits1 s).map fun (ds, rest) => (e :: '+' :: ds, rest)
        | some '-' :: s => (digits1 s).map fun (ds, rest) => (e :: '-' :: ds, rest)
        | s => (digits1 s).map fun (ds, rest) => (e :: ds, rest)
      else some ([], some e :: s)
  | s => some ([], s)

def valueOf (ds : List Char) : Nat :=
  ds.foldl (fun n d => n * 10 + (d.toNat - '0'.toNat)) 0

def unsigned (negative : Bool) : Reader Number := fun s => do
  let (whole, s) ← digits1 s
  if whole.length > 1 ∧ whole.head? = some '0' then none
  else
    let (fraction, s) ← fraction s
    let (exponent, s) ← exponent s
    some (⟨negative, valueOf whole, fraction ++ exponent⟩, s)

def number : Reader Number
  | some '-' :: s => unsigned true s
  | s => unsigned false s

inductive Piece where
  | symbol (symbol : Symbol)
  | unit (value : Nat)

def hexDigit? : Symbol → Option Nat
  | some c =>
      if '0' ≤ c ∧ c ≤ '9' then some (c.toNat - '0'.toNat)
      else if 'a' ≤ c ∧ c ≤ 'f' then some (c.toNat - 'a'.toNat + 10)
      else if 'A' ≤ c ∧ c ≤ 'F' then some (c.toNat - 'A'.toNat + 10)
      else none
  | none => none

def hex4? (a b c d : Symbol) : Option Nat := do
  some ((((← hexDigit? a) * 16 + (← hexDigit? b)) * 16 + (← hexDigit? c)) * 16 + (← hexDigit? d))

def escaped? : Symbol → Option Char
  | some '"' => some '"'
  | some '\\' => some '\\'
  | some '/' => some '/'
  | some 'b' => some '\x08'
  | some 'f' => some '\x0c'
  | some 'n' => some '\n'
  | some 'r' => some '\r'
  | some 't' => some '\t'
  | _ => none

def pieces : Reader (List Piece)
  | [] => none
  | some '"' :: s => some ([], s)
  | some '\\' :: some 'u' :: a :: b :: c :: d :: s => do
      let value ← hex4? a b c d
      let (rest, s) ← pieces s
      some (.unit value :: rest, s)
  | some '\\' :: e :: s => do
      let char ← escaped? e
      let (rest, s) ← pieces s
      some (.symbol (some char) :: rest, s)
  | none :: s => do
      let (rest, s) ← pieces s
      some (.symbol none :: rest, s)
  | some c :: s =>
      if c = '\\' ∨ c.toNat < 0x20 then none
      else do
        let (rest, s) ← pieces s
        some (.symbol (some c) :: rest, s)

def isHigh (unit : Nat) : Bool :=
  0xD800 ≤ unit && unit < 0xDC00

def isLow (unit : Nat) : Bool :=
  0xDC00 ≤ unit && unit < 0xE000

-- Escaped surrogates that form a pair become one character, all others a gap.
def assemble : List Piece → Text
  | [] => []
  | .symbol symbol :: rest => symbol :: assemble rest
  | .unit high :: .unit low :: rest =>
      if isHigh high && isLow low then
        some (Char.ofNat (0x10000 + (high - 0xD800) * 1024 + (low - 0xDC00))) :: assemble rest
      else if isHigh high || isLow high then none :: assemble (.unit low :: rest)
      else some (Char.ofNat high) :: assemble (.unit low :: rest)
  | .unit value :: rest =>
      if isHigh value || isLow value then none :: assemble rest
      else some (Char.ofNat value) :: assemble rest

def text : Reader Text := fun s => do
  let (read, s) ← pieces s
  some (assemble read, s)

def word (letters : String) (json : Json) : Reader Json := fun s =>
  let symbols := letters.toList.map some
  if symbols.isPrefixOf s then some (json, s.drop symbols.length) else none

mutual
def value : Nat → Reader Json
  | 0, _ => none
  | fuel + 1, s =>
      match skip s with
      | some 'n' :: s => word "ull" .null s
      | some 't' :: s => word "rue" (.bool true) s
      | some 'f' :: s => word "alse" (.bool false) s
      | some '"' :: s => (text s).map fun (read, s) => (.string read, s)
      | some '[' :: s =>
          match skip s with
          | some ']' :: s => some (.array [], s)
          | _ => (items fuel s).map fun (read, s) => (.array read, s)
      | some '\x7b' :: s =>
          match skip s with
          | some '\x7d' :: s => some (.object [], s)
          | _ => (members fuel s).map fun (read, s) => (.object read, s)
      | s => (number s).map fun (read, s) => (.number read, s)

def items : Nat → Reader (List Json)
  | 0, _ => none
  | fuel + 1, s => do
      let (item, s) ← value fuel s
      match skip s with
      | some ',' :: s => do
          let (rest, s) ← items fuel s
          some (item :: rest, s)
      | some ']' :: s => some ([item], s)
      | _ => none

def members : Nat → Reader (List (Text × Json))
  | 0, _ => none
  | fuel + 1, s =>
      match skip s with
      | some '"' :: s => do
          let (key, s) ← text s
          match skip s with
          | some ':' :: s => do
              let (item, s) ← value fuel s
              match skip s with
              | some ',' :: s => do
                  let (rest, s) ← members fuel s
                  some ((key, item) :: rest, s)
              | some '\x7d' :: s => some ([(key, item)], s)
              | _ => none
          | _ => none
      | _ => none
end

end Reader

def parse? (document : Bytes) : Option Json := do
  let symbols := Utf8.decode document
  let (read, rest) ← Reader.value (2 * symbols.length + 2) symbols
  if Reader.skip rest = [] then some read else none

end KeyCustody.Json
