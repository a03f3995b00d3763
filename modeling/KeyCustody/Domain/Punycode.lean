set_option autoImplicit false

namespace KeyCustody.Domain.Punycode

def digit (value : Nat) : Char :=
  if value < 26 then Char.ofNat ('a'.toNat + value) else Char.ofNat ('0'.toNat + (value - 26))

def value? (c : Char) : Option Nat :=
  if 'a' ≤ c ∧ c ≤ 'z' then some (c.toNat - 'a'.toNat)
  else if 'A' ≤ c ∧ c ≤ 'Z' then some (c.toNat - 'A'.toNat)
  else if '0' ≤ c ∧ c ≤ '9' then some (c.toNat - '0'.toNat + 26)
  else none

def threshold (position bias : Nat) : Nat :=
  if position ≤ bias then 1 else if bias + 26 ≤ position then 26 else position - bias

theorem threshold_bounds (position bias : Nat) :
    1 ≤ threshold position bias ∧ threshold position bias ≤ 26 := by
  unfold threshold
  split
  · omega
  · split <;> omega

def settle (delta steps : Nat) : Nat :=
  if 455 < delta then settle (delta / 35) (steps + 36) else steps + 36 * delta / (delta + 38)
termination_by delta
decreasing_by omega

def adapt (delta count : Nat) (first : Bool) : Nat :=
  let scaled := if first then delta / 700 else delta / 2
  settle (scaled + scaled / count) 0

def digits (bias position delta : Nat) : List Char :=
  let t := threshold position bias
  if delta < t then [digit delta]
  else digit (t + (delta - t) % (36 - t)) :: digits bias (position + 36) ((delta - t) / (36 - t))
termination_by delta
decreasing_by
  have bounds := threshold_bounds position bias
  exact Nat.lt_of_le_of_lt (Nat.div_le_self _ _) (by omega)

structure Writing where
  output : List Char
  delta : Nat
  bias : Nat
  written : Nat

def pass (basic next : Nat) (state : Writing) (c : Char) : Writing :=
  if c.toNat < next then { state with delta := state.delta + 1 }
  else if c.toNat = next then
    { output := state.output ++ digits state.bias 36 state.delta
      delta := 0
      bias := adapt state.delta (state.written + 1) (state.written = basic)
      written := state.written + 1 }
  else state

def insertOnce (n : Nat) : List Nat → List Nat
  | [] => [n]
  | m :: rest => if n < m then n :: m :: rest else if n = m then m :: rest else m :: insertOnce n rest

def extend (label : List Char) (basic : Nat) : List Nat → Nat → Writing → Writing
  | [], _, state => state
  | next :: rest, low, state =>
      let passed := label.foldl (pass basic next)
        { state with delta := state.delta + (next - low) * (state.written + 1) }
      extend label basic rest (next + 1) { passed with delta := passed.delta + 1 }

def encode (label : List Char) : List Char :=
  let basic := label.filter fun c => c.toNat < 0x80
  let others := ((label.map Char.toNat).filter (0x80 ≤ ·)).foldr insertOnce []
  (extend label basic.length others 0x80
    ⟨if basic = [] then [] else basic ++ ['-'], 0, 72, basic.length⟩).output

def difference? (bias : Nat) : Nat → Nat → Nat → List Char → Option (Nat × List Char)
  | _, _, _, [] => none
  | position, weight, sum, c :: rest =>
      match value? c with
      | none => none
      | some d =>
          let t := threshold position bias
          if d < t then some (sum + d * weight, rest)
          else difference? bias (position + 36) (weight * (36 - t)) (sum + d * weight) rest

def insertAll? : Nat → Nat → Nat → Nat → List Char → List Char → Option (List Char)
  | _, _, _, _, label, [] => some label
  | 0, _, _, _, _, _ => none
  | fuel + 1, next, index, bias, label, input =>
      match difference? bias 36 1 0 input with
      | none => none
      | some (delta, rest) =>
          let count := label.length + 1
          let place := index + delta
          let code := next + place / count
          if code.isValidChar then
            let position := place % count
            insertAll? fuel code (position + 1) (adapt delta count (index = 0))
              (label.take position ++ [Char.ofNat code] ++ label.drop position) rest
          else none

def decode? (text : List Char) : Option (List Char) :=
  let tail := (text.reverse.takeWhile (· ≠ '-')).reverse
  let front := (text.take (text.length - tail.length)).dropLast
  insertAll? text.length 0x80 0 72 front tail

end KeyCustody.Domain.Punycode
