/-!
Properties of characters as runs of code points that share a value. A run is written as capital
letters, which name the value, and hexadecimal numbers with points between them: how many code
points there are in the run, and what else the value needs. The runs follow one another without a
gap, the first from zero on.
-/

set_option autoImplicit false

namespace KeyCustody

structure CharRun where
  start : Nat
  length : Nat
  name : String
  numbers : List Nat

namespace CharRun

def digit (c : Char) : Nat :=
  if c.isDigit then c.toNat - '0'.toNat else c.toNat - 'a'.toNat + 10

def number (text : List Char) : Nat :=
  text.foldl (fun value c => value * 16 + digit c) 0

def read (start : Nat) (word : List Char) : CharRun :=
  let numbers := (List.splitOn '.' (word.dropWhile Char.isUpper)).map number
  { start, length := numbers.headD 0, name := String.ofList (word.takeWhile Char.isUpper)
    numbers := numbers.drop 1 }

def readAll : Nat → List (List Char) → List CharRun
  | _, [] => []
  | start, word :: rest =>
      let run := read start word
      run :: readAll (start + run.length) rest

def ofText (text : String) : List CharRun :=
  let spaced := text.toList.map fun c => if c = '\n' then ' ' else c
  readAll 0 ((List.splitOn ' ' spaced).filter (· ≠ []))

end CharRun

abbrev Runs (α : Type) := Array (Nat × α)

namespace Runs

variable {α : Type}

def ofText (value : CharRun → α) (text : String) : Runs α :=
  ((CharRun.ofText text).map fun run => (run.start, value run)).toArray

def locate (runs : Runs α) (n low high : Nat) : Nat :=
  if low + 1 < high then
    let middle := (low + high) / 2
    match runs[middle]? with
    | some (start, _) => if start ≤ n then locate runs n middle high else locate runs n low middle
    | none => low
  else low
termination_by high - low

def find? (runs : Runs α) (c : Char) : Option (Nat × α) :=
  runs[locate runs c.toNat 0 runs.size]?

def value? (runs : Runs α) (c : Char) : Option α :=
  (runs.find? c).map Prod.snd

end Runs
end KeyCustody
