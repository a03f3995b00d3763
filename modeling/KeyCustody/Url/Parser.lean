import KeyCustody.Url.Basic

set_option autoImplicit false

namespace KeyCustody.Url

namespace Parser

-- Blanks and controls at both ends do not count, nor do tabs and line ends anywhere.
def stripped (text : List Char) : List Char :=
  let blank (c : Char) : Bool := c.toNat ≤ 0x20
  let trimmed := ((text.dropWhile blank).reverse.dropWhile blank).reverse
  trimmed.filter fun c => c ≠ '\t' && c ≠ '\n' && c ≠ '\r'

def isSchemeChar (c : Char) : Bool :=
  c.isAlphanum || c = '+' || c = '-' || c = '.'

def scheme? (text : List Char) : Option (String × List Char) :=
  match text.span isSchemeChar with
  | (c :: rest, ':' :: after) =>
      if c.isAlpha then some (String.ofList ((c :: rest).map Char.toLower), after) else none
  | _ => none

def isSlash (special : Bool) (c : Char) : Bool :=
  c = '/' || special && c = '\\'

def endsPath (c : Char) : Bool :=
  c = '?' || c = '#'

def endsAuthority (special : Bool) (c : Char) : Bool :=
  isSlash special c || endsPath c

def atLast? (mark : Char) (text : List Char) : Option (List Char × List Char) :=
  if mark ∈ text then
    let after := (text.reverse.takeWhile (· ≠ mark)).reverse
    some (text.take (text.length - after.length - 1), after)
  else none

def atPort : Bool → List Char → List Char × Option (List Char)
  | _, [] => ([], none)
  | inside, c :: rest =>
      if c = ':' ∧ inside = false then ([], some rest)
      else
        let inside := if c = '[' then true else if c = ']' then false else inside
        let (host, port) := atPort inside rest
        (c :: host, port)

-- A port, none when there are no digits or it is the scheme's own, and the text behind it, which
-- is empty or starts with a backslash.
def port? (scheme : String) (text : List Char) : Option (Option Nat × List Char) :=
  let digits := text.takeWhile Char.isDigit
  let rest := text.dropWhile Char.isDigit
  if rest.head?.any (· ≠ '\\') then none
  else if digits = [] then some (none, rest)
  else do
    let port ← Host.numeral? 10 digits
    if port > 65535 then none
    else some (if defaultPort? scheme = some port then none else some port, rest)

structure Authority where
  username : String
  password : Option String
  host : Host
  port : Option Nat
  rest : List Char

def host? (special : Bool) (text : List Char) : Option Host :=
  if special then Host.special? text else Host.other? text

def userinfo (text : List Char) : String × Option String :=
  let encode (part : List Char) : String := String.ofList (percentEncode .userinfo part)
  match text.span (· ≠ ':') with
  | (username, ':' :: c :: password) => (encode username, some (encode (c :: password)))
  | (username, _) => (encode username, none)

def authority? (scheme : String) (special last : Bool) (text : List Char) : Option Authority := do
  let (credentials, address) := (atLast? '@' text).getD ([], text)
  let (username, password) := userinfo credentials
  let (hostText, portText) := atPort false address
  let named := username ≠ "" || password.isSome
  if hostText = [] ∧ (special ∨ portText.isSome ∨ named) then none
  else if text = ['@'] ∧ last = false then none
  else
    let host ← host? special hostText
    let (port, rest) ← port? scheme (portText.getD [])
    some { username, password, host, port, rest }

def pathPieces (special : Bool) (text : List Char) : List (List Char) :=
  List.splitOn '/' (text.map fun c => if isSlash special c then '/' else c)

def isDot (piece : List Char) : Bool :=
  let lower := piece.map Char.toLower
  lower = ['.'] || lower = "%2e".toList

def isDoubleDot (piece : List Char) : Bool :=
  let lower := piece.map Char.toLower
  lower = "..".toList || lower = ".%2e".toList || lower = "%2e.".toList || lower = "%2e%2e".toList

def isDrive : List Char → Bool
  | [letter, mark] => letter.isAlpha && (mark = ':' || mark = '|')
  | _ => false

structure Walk where
  visited : List String
  drive : Bool

def Walk.leave (walk : Walk) : Walk :=
  match walk.visited with
  | [] => walk
  | segment :: front =>
      if isDrive (segment.toList.takeWhile (· ≠ '\\')) then walk else { walk with visited := front }

def encodeSegment (piece : List Char) : String :=
  String.ofList (percentEncode .path piece)

-- What a drive at the front of a file's path makes of it. Text behind its colon is a segment of
-- its own.
def drive? (piece : List Char) : Option Walk :=
  match piece with
  | [letter, mark] =>
      if isDrive [letter, mark] then some ⟨[String.ofList [letter, ':']], true⟩ else none
  | letter :: ':' :: rest =>
      if letter.isAlpha then some ⟨[encodeSegment rest, String.ofList [letter, ':']], false⟩ else none
  | _ => none

def Walk.enter (file : Bool) (walk : Walk) (piece : List Char) : Walk :=
  match if file ∧ walk.visited = [] then drive? piece else none with
  | some front => front
  | none => { walk with visited := encodeSegment piece :: walk.visited }

def Walk.close (walk : Walk) : Walk :=
  { walk with visited := "" :: walk.visited }

def Walk.add (file last : Bool) (walk : Walk) (piece : List Char) : Walk :=
  if isDoubleDot piece then if last then walk.leave.close else walk.leave
  else if isDot piece then if last then walk.close else walk
  else walk.enter file piece

def Walk.addAll (file : Bool) : Walk → List (List Char) → Walk
  | walk, [] => walk
  | walk, [piece] => walk.add file true piece
  | walk, piece :: rest => addAll file (walk.add file false piece) rest

def Walk.path (walk : Walk) : List String :=
  walk.visited.reverse

def walk (special file : Bool) (text : List Char) : Walk :=
  Walk.addAll file ⟨[], false⟩ (pathPieces special text)

def segments (special : Bool) (text : List Char) : List String :=
  (walk special false text).path

def fileSegments (path : List String) : List String :=
  match path.dropWhile (· = "") with
  | [] => [""]
  | trimmed => trimmed

def hierarchySegments (special : Bool) (text : List Char) : List String :=
  match text with
  | [] => if special then [""] else []
  | c :: rest => segments special (if isSlash special c then rest else text)

def tail (special : Bool) (text : List Char) : Option String × Option String :=
  let (front, back) := text.span (· ≠ '#')
  let query := match front with
    | '?' :: query =>
        some (String.ofList (percentEncode (if special then .specialQuery else .query) query))
    | _ => none
  let fragment := match back with
    | _ :: fragment => some (String.ofList (percentEncode .fragment fragment))
    | [] => none
  (query, fragment)

def hierarchical? (scheme : String) (special : Bool) (text : List Char) : Option Url := do
  let (authorityText, behind) := text.span fun c => !endsAuthority special c
  let (pathText, tailText) := behind.span fun c => !endsPath c
  let authority ← authority? scheme special (behind = []) authorityText
  let (query, fragment) := tail special tailText
  some {
    scheme, query, fragment
    username := authority.username
    password := authority.password
    host := some authority.host
    port := authority.port
    path := .segments (hierarchySegments special (authority.rest ++ pathText)) }

def plain? (scheme : String) (text : List Char) : Option Url :=
  match text with
  | '/' :: '/' :: rest => hierarchical? scheme false rest
  | _ =>
      let (pathText, tailText) := text.span fun c => !endsPath c
      let (query, fragment) := tail false tailText
      let path := match pathText with
        | '/' :: rest => Path.segments (segments false rest)
        | _ => Path.flat (String.ofList (percentEncode .controls pathText))
      some { scheme, path, query, fragment, username := "", password := none, host := none, port := none }

-- The host of a file and its path. The host is empty when it names this machine, or when it is a
-- drive and so belongs to the path.
def fileHost? (text : List Char) : Option (Host × List Char) :=
  let (hostText, path) := text.span fun c => !isSlash true c
  if hostText = [] ∨ isDrive hostText then some (.domain "", text)
  else do
    let host ← Host.special? hostText
    if host = .domain "localhost" then some (.domain "", path) else some (host, path.drop 1)

def file? (text : List Char) : Option Url := do
  let (front, tailText) := text.span fun c => !endsPath c
  let (query, fragment) := tail true tailText
  let (host, pathText) ← match front with
    | a :: rest =>
        if isSlash true a then
          match rest with
          | b :: rest' => if isSlash true b then fileHost? rest' else some (.domain "", rest)
          | [] => some (.domain "", [])
        else some (.domain "", front)
    | [] => some (.domain "", [])
  let walk := walk true true pathText
  some {
    scheme := "file", query, fragment, username := "", password := none, port := none
    host := some (if walk.drive then .domain "" else host)
    path := .segments (fileSegments walk.path) }

end Parser

def parse? (text : String) : Option Url := do
  let (scheme, rest) ← Parser.scheme? (Parser.stripped text.toList)
  if scheme = "file" then Parser.file? rest
  else if isSpecialScheme scheme then
    Parser.hierarchical? scheme true (rest.dropWhile (Parser.isSlash true))
  else Parser.plain? scheme rest

end KeyCustody.Url
