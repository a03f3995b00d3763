import KeyCustody.Url.Host
import KeyCustody.Text.Quoted

set_option autoImplicit false

namespace KeyCustody

namespace Url

inductive Path where
  | flat (text : String)
  | segments (list : List String)
  deriving DecidableEq

def Path.write : Path → String
  | flat text => text
  | segments list => String.join (list.map ("/" ++ ·))

def specialSchemes : List (String × Option Nat) :=
  [("ftp", some 21), ("file", none), ("http", some 80), ("https", some 443), ("ws", some 80),
    ("wss", some 443)]

def isSpecialScheme (scheme : String) : Bool :=
  specialSchemes.any (·.1 = scheme)

def defaultPort? (scheme : String) : Option Nat :=
  (specialSchemes.find? (·.1 = scheme)).bind Prod.snd

end Url

structure Url where
  scheme : String
  username : String
  password : Option String
  host : Option Url.Host
  port : Option Nat
  path : Url.Path
  query : Option String
  fragment : Option String
  deriving DecidableEq

namespace Url

def writeUserinfo (url : Url) : String :=
  match url.password with
  | some password => url.username ++ ":" ++ password ++ "@"
  | none => if url.username = "" then "" else url.username ++ "@"

def writePort : Option Nat → String
  | some port => ":" ++ toString port
  | none => ""

def writeAuthority (url : Url) : String :=
  match url.host with
  | some host => "//" ++ url.writeUserinfo ++ host.write ++ writePort url.port
  | none =>
      match url.path with
      | .segments ("" :: _ :: _) => "/."
      | _ => ""

def writeAfter (mark : String) : Option String → String
  | some text => mark ++ text
  | none => ""

def write (url : Url) : String :=
  url.scheme ++ ":" ++ url.writeAuthority ++ url.path.write ++ writeAfter "?" url.query ++
    writeAfter "#" url.fragment

def isHttp (url : Url) : Bool :=
  url.scheme = "http" || url.scheme = "https"

def withoutUserinfo (url : Url) : Url :=
  { url with username := "", password := none }

def describeOption {α : Type} (describe : α → String) : Option α → String
  | some a => "Some(" ++ describe a ++ ")"
  | none => "None"

def describeHost : Option Host → String
  | none | some (.domain "") => "None"
  | some (.domain name) => "Some(Domain(" ++ Quoted.quote name ++ "))"
  | some (.ipv4 address) => "Some(Ipv4(" ++ Host.writeIpv4 address ++ "))"
  | some (.ipv6 pieces) => "Some(Ipv6(" ++ Host.describeIpv6 pieces ++ "))"

def Path.isFlat : Path → Bool
  | flat _ => true
  | segments _ => false

def describe (url : Url) : String :=
  "Url \x7b scheme: " ++ Quoted.quote url.scheme ++
    ", cannot_be_a_base: " ++ (if url.path.isFlat then "true" else "false") ++
    ", username: " ++ Quoted.quote url.username ++
    ", password: " ++ describeOption Quoted.quote url.password ++
    ", host: " ++ describeHost url.host ++
    ", port: " ++ describeOption toString url.port ++
    ", path: " ++ Quoted.quote url.path.write ++
    ", query: " ++ describeOption Quoted.quote url.query ++
    ", fragment: " ++ describeOption Quoted.quote url.fragment ++ " \x7d"

end Url
end KeyCustody
