import KeyCustody.Config
import KeyCustody.Rest

set_option autoImplicit false

namespace KeyCustody.Http

structure Request where
  method : String
  url : Url
  authorization : String
  contentType : String
  body : Bytes
  deriving DecidableEq

-- How an exchange ended: without an answer, or with a final status, the octets of a body, and the
-- body as text in the encoding that the answer declares.
inductive Outcome where
  | noAnswer
  | answered (status : Nat) (body : Bytes) (text : String)
  deriving DecidableEq

abbrev surface : Surface where
  Query := Request
  Answer _ := Outcome

structure Client where
  baseUrl : Url
  token : String
  deriving DecidableEq

def isHeaderText (text : String) : Bool :=
  (Utf8.encode text.toList).all fun octet => octet = 0x09 || 0x20 ≤ octet && octet ≠ 0x7F

namespace Client

def ofConfig (config : Config) : Except Config.Flaw Client :=
  if isHeaderText config.token then .ok ⟨config.baseUrl, config.token⟩ else .error .invalidToken

def withoutEndSlashes (text : String) : String :=
  String.ofList (text.toList.reverse.dropWhile (· = '/')).reverse

def endpoint (client : Client) (name : String) (verb : Verb) : String :=
  withoutEndSlashes client.baseUrl.write ++ "/v1/" ++ name ++ ":" ++ verb.word

def decoded? (text : String) : Option (List Char) :=
  Utf8.decode? (Url.percentDecode (Utf8.encode text.toList))

-- The user and the password of a URL, which take the place of the token. A user that is not UTF-8 does
-- not, and a password that is not is left out.
def basic? (url : Url) : Option (List Char) := do
  let username ← decoded? url.username
  let password := url.password.bind decoded?
  if username = [] ∧ password = none then none else some (username ++ ':' :: password.getD [])

def destination (url : Url) : Url :=
  if (basic? url).isSome then url.withoutUserinfo else url

def authorization (client : Client) (url : Url) : String :=
  match basic? url with
  | some credentials => "Basic " ++ String.ofList (Base64.encode (Utf8.encode credentials))
  | none => "Bearer " ++ client.token

def request? (client : Client) (query : Rest.Query) : Option Request := do
  let url ← Url.parse? (client.endpoint query.name query.verb)
  if url.isHttp then
    some {
      method := "POST"
      url := destination url
      authorization := client.authorization url
      contentType := "application/json"
      body := Wire.Message.document query.request }
  else none

def isSuccess (status : Nat) : Bool :=
  200 ≤ status && status < 300

def interpret (verb : Verb) (endpoint : String) :
    Outcome → Except ServiceFailure (Wire.Response verb)
  | .noAnswer => .error (.noAnswer endpoint)
  | .answered status body text =>
      if isSuccess status then
        match Wire.Message.ofDocument? body with
        | some response => .ok response
        | none => .error (.malformedReply (endpoint ++ ": error decoding response body"))
      else .error (.status endpoint status text)

def queries (client : Client) : Adapter Rest.surface surface := fun query =>
  let endpoint := client.endpoint query.name query.verb
  match client.request? query with
  | none => .done (.error (.noAnswer endpoint))
  | some request =>
      .ask request fun outcome => .done (interpret query.verb endpoint outcome)

end Client
end KeyCustody.Http
