import KeyCustody.Url.Percent
import KeyCustody.Domain.Label

set_option autoImplicit false

namespace KeyCustody.Url

inductive Host where
  | domain (name : String)
  | ipv4 (address : Nat)
  | ipv6 (pieces : List Nat)
  deriving DecidableEq

namespace Host

def digitBelow? (radix : Nat) (c : Char) : Option Nat :=
  match hexValue? c.toNat with
  | some d => if d < radix then some d else none
  | none => none

def numeral? (radix : Nat) (text : List Char) : Option Nat :=
  text.foldl
    (fun value c => match value, digitBelow? radix c with
      | some value, some d => some (value * radix + d)
      | _, _ => none)
    (some 0)

def ipv4Number? : List Char → Option Nat
  | [] => none
  | ['0'] => some 0
  | '0' :: c :: rest =>
      if c = 'x' ∨ c = 'X' then numeral? 16 rest else numeral? 8 (c :: rest)
  | text => numeral? 10 text

def dotted (text : List Char) : List (List Char) :=
  let pieces := List.splitOn '.' text
  if pieces.length > 1 ∧ pieces.getLast? = some [] then pieces.dropLast else pieces

def endsInNumber (text : List Char) : Bool :=
  match (dotted text).getLast? with
  | none => false
  | some last => (last ≠ [] && last.all Char.isDigit) || (ipv4Number? last).isSome

-- All numbers but the last are octets; the last fills what is left of the 32 bits.
def ipv4? (text : List Char) : Option Nat := do
  let pieces := dotted text
  if pieces.length > 4 then none
  else
    let numbers ← pieces.mapM ipv4Number?
    let front := numbers.dropLast
    let last ← numbers.getLast?
    if front.any (255 < ·) ∨ 1 <<< (8 * (4 - front.length)) ≤ last then none
    else
      let high := front.foldl (fun value n => value * 256 + n) 0
      some (high <<< (8 * (4 - front.length)) + last)

def hexGroup? (text : List Char) : Option (List Nat) :=
  if text = [] ∨ text.length > 4 then none else (numeral? 16 text).map ([·])

def octet? (text : List Char) : Option Nat :=
  if text = [] ∨ text.length > 1 ∧ text.head? = some '0' then none
  else
    match numeral? 10 text with
    | some n => if n ≤ 255 then some n else none
    | none => none

def dottedGroups? (text : List Char) : Option (List Nat) := do
  match ← (List.splitOn '.' text).mapM octet? with
  | [a, b, c, d] => some [a * 256 + b, c * 256 + d]
  | _ => none

def groups? (last : Bool) (text : List Char) : Option (List Nat) :=
  if text = [] then some []
  else do
    let pieces := List.splitOn ':' text
    let front ← pieces.dropLast.mapM hexGroup?
    let back ← pieces.getLast?
    let back ← if last ∧ '.' ∈ back then dottedGroups? back else hexGroup? back
    some (front.flatten ++ back)

def atDoubleColon : List Char → Option (List Char × List Char)
  | [] => none
  | ':' :: ':' :: rest => some ([], rest)
  | c :: rest => (atDoubleColon rest).map fun (before, after) => (c :: before, after)

def ipv6? (text : List Char) : Option (List Nat) :=
  match atDoubleColon text with
  | none => do
      let groups ← groups? true text
      if groups.length = 8 then some groups else none
  | some (before, after) => do
      let front ← groups? false before
      let back ← groups? true after
      if front.length + back.length ≤ 7 then
        some (front ++ List.replicate (8 - front.length - back.length) 0 ++ back)
      else none

def special? (text : List Char) : Option Host :=
  match text with
  | '[' :: rest =>
      if rest.getLast? = some ']' then (ipv6? rest.dropLast).map .ipv6 else none
  | _ => do
      let decoded ← Utf8.decode? (percentDecode (Utf8.encode text))
      let domain ← Domain.ascii? decoded
      if domain = [] then none
      else if endsInNumber domain then (ipv4? domain).map .ipv4
      else some (.domain (String.ofList domain))

def other? (text : List Char) : Option Host :=
  match text with
  | '[' :: rest =>
      if rest.getLast? = some ']' then (ipv6? rest.dropLast).map .ipv6 else none
  | _ =>
      if text.any fun c => c = '\x00' || " #/:<>?@[\\]^|".toList.contains c then none
      else some (.domain (String.ofList (percentEncode .controls text)))

def writeIpv4 (address : Nat) : String :=
  String.intercalate "." ((Bytes.ofNat 4 address).map fun octet => toString octet.toNat)

def zeros (pieces : List Nat) : Nat :=
  (pieces.takeWhile (· = 0)).length

def longestZeros : Nat → List Nat → Nat × Nat
  | _, [] => (0, 0)
  | start, piece :: rest =>
      let here := zeros (piece :: rest)
      let later := longestZeros (start + 1) rest
      if later.2 ≤ here then (start, here) else later

def hexText (n : Nat) : String :=
  String.ofList (Nat.toDigits 16 n)

def writeGroups (pieces : List Nat) : String :=
  String.intercalate ":" (pieces.map hexText)

def writeCompressed (pieces : List Nat) : String :=
  let run := longestZeros 0 pieces
  if 2 ≤ run.2 then
    writeGroups (pieces.take run.1) ++ "::" ++ writeGroups (pieces.drop (run.1 + run.2))
  else writeGroups pieces

def describeIpv6 (pieces : List Nat) : String :=
  match pieces with
  | [0, 0, 0, 0, 0, 0xFFFF, high, low] => "::ffff:" ++ writeIpv4 (high * 0x10000 + low)
  | _ => writeCompressed pieces

def write : Host → String
  | domain name => name
  | ipv4 address => writeIpv4 address
  | ipv6 pieces => "[" ++ writeCompressed pieces ++ "]"

end Host
end KeyCustody.Url
