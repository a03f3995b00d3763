import KeyCustody.Url.Parser
import KeyCustody.Text.Decimal

set_option autoImplicit false

namespace KeyCustody

structure Config where
  baseUrl : Url
  token : String
  timeoutSeconds : UInt64
  deriving DecidableEq

namespace Config

inductive Flaw where
  | missingToken
  | invalidToken
  | invalidUrl (name : String)
  | invalidTimeout (text : String)
  deriving DecidableEq

def Flaw.message : Flaw → String
  | missingToken => "KMS_ACCESS_TOKEN is not set"
  | invalidToken => "the access token is not a valid header value"
  | invalidUrl name => "invalid URL in " ++ name
  | invalidTimeout text =>
      "KMS_TIMEOUT_SECS must be a whole number of seconds, got " ++ Quoted.quote text

def defaultBaseUrl : Url where
  scheme := "https"
  username := ""
  password := none
  host := some (.domain "cloudkms.googleapis.com")
  port := none
  path := .segments [""]
  query := none
  fragment := none

def defaultTimeoutSeconds : UInt64 := 30

def ofToken (token : String) : Config where
  baseUrl := defaultBaseUrl
  token := token
  timeoutSeconds := defaultTimeoutSeconds

structure Environment where
  accessToken : Option Bytes
  baseUrl : Option Bytes
  timeoutSeconds : Option Bytes

-- A variable that is not UTF-8 counts as unset.
def textOf (octets : Option Bytes) : Option String :=
  (octets.bind Utf8.decode?).map String.ofList

def timeoutOf : Option String → Except Flaw UInt64
  | none => .ok defaultTimeoutSeconds
  | some text =>
      match Decimal.word64? text.toList with
      | some seconds => .ok seconds
      | none => .error (.invalidTimeout text)

def baseUrlOf : Option String → Except Flaw Url
  | none => .ok defaultBaseUrl
  | some text =>
      match Url.parse? text with
      | some url => .ok url
      | none => .error (.invalidUrl "KMS_BASE_URL")

def ofEnvironment (environment : Environment) : Except Flaw Config :=
  match textOf environment.accessToken with
  | none => .error .missingToken
  | some token => do
      let timeoutSeconds ← timeoutOf (textOf environment.timeoutSeconds)
      let baseUrl ← baseUrlOf (textOf environment.baseUrl)
      return { baseUrl, token, timeoutSeconds }

def describe (config : Config) : String :=
  "RestConfig \x7b base_url: " ++ config.baseUrl.describe ++
    ", access_token: \"[REDACTED]\", timeout_secs: " ++ toString config.timeoutSeconds.toNat ++ " \x7d"

end Config
end KeyCustody
