set_option autoImplicit false

namespace KeyCustody.Decimal

def digit? (c : Char) : Option Nat :=
  if '0' ≤ c ∧ c ≤ '9' then some (c.toNat - '0'.toNat) else none

def continue? (high : Nat) : List Char → Option Nat
  | [] => some high
  | c :: rest =>
      match digit? c with
      | some d => continue? (high * 10 + d) rest
      | none => none

def natural? (text : List Char) : Option Nat :=
  if text = [] then none else continue? 0 text

def integer? : List Char → Option Int
  | '-' :: rest => (natural? rest).map fun n => -(n : Int)
  | '+' :: rest => (natural? rest).map fun n => (n : Int)
  | rest => (natural? rest).map fun n => (n : Int)

def word64? (text : List Char) : Option UInt64 :=
  let digits := match text with
    | '+' :: rest => rest
    | rest => rest
  match natural? digits with
  | some n => if n < UInt64.size then some (UInt64.ofNat n) else none
  | none => none

def fit64? (n : Int) : Option Int64 :=
  if (Int64.ofInt n).toInt = n then some (Int64.ofInt n) else none

end KeyCustody.Decimal
