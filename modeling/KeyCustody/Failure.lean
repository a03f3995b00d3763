import KeyCustody.Checksum
import KeyCustody.KeyName.Basic
import KeyCustody.Algorithm

set_option autoImplicit false

namespace KeyCustody

inductive RpcCode where
  | invalidArgument
  | notFound
  | permissionDenied
  | failedPrecondition
  | unimplemented
  | internal
  | unavailable
  | unknown
  deriving DecidableEq

namespace RpcCode

def all : List RpcCode :=
  [invalidArgument, notFound, permissionDenied, failedPrecondition, unimplemented, internal,
    unavailable, unknown]

def shown : RpcCode → String
  | invalidArgument => "InvalidArgument"
  | notFound => "NotFound"
  | permissionDenied => "PermissionDenied"
  | failedPrecondition => "FailedPrecondition"
  | unimplemented => "Unimplemented"
  | internal => "Internal"
  | unavailable => "Unavailable"
  | unknown => "Unknown"

end RpcCode

inductive ServiceFailure where
  | noAnswer (endpoint : String)
  | status (endpoint : String) (code : Nat) (body : String)
  | rpc (code : RpcCode) (text : String)
  | unknownKey (name : String) (known : List String)
  | invalidArgument (text : String)
  | checksum (mismatch : Checksum.Mismatch)
  | malformedReply (text : String)
  | cipher (text : String)
  deriving DecidableEq

namespace ServiceFailure

def message : ServiceFailure → String
  | noAnswer endpoint => "HTTP request to " ++ endpoint ++ " failed"
  | status endpoint code body => endpoint ++ " returned HTTP " ++ toString code ++ ": " ++ body
  | rpc code text => "RPC failed with " ++ code.shown ++ ": " ++ text
  | unknownKey name known => "unknown key ID: " ++ name ++ " is not in " ++ Quoted.quoteAll known
  | invalidArgument text => "invalid argument: " ++ text
  | checksum mismatch => "invalid argument, " ++ mismatch.message
  | malformedReply text => "malformed response: " ++ text
  | cipher text => text

def causes : ServiceFailure → List String
  | checksum mismatch => [mismatch.message]
  | _ => []

end ServiceFailure

inductive Operation where
  | encryption
  | decryption
  | asymmetricSign
  deriving DecidableEq

def Operation.words : Operation → String
  | .encryption => "encryption"
  | .decryption => "decryption"
  | .asymmetricSign => "asymmetric sign"

inductive ClientFlaw where
  | notExactlyOne
  | noRpcClient
  deriving DecidableEq

def ClientFlaw.message : ClientFlaw → String
  | .notExactlyOne => "exactly one of the REST or the RPC client must be provided"
  | .noRpcClient => "the RPC client must be provided"

inductive Failure where
  | keyName (refused : KeyName.Refused)
  | configuration (flaw : ClientFlaw)
  | noPublicKey (name : String) (cause : ServiceFailure)
  | tooLarge (size limit : Nat)
  | noDigest (algorithm : Algorithm)
  | otherKey (expected actual : String)
  | notVerified (field : Field)
  | checksum (mismatch : Checksum.Mismatch)
  | remote (operation : Operation) (cause : ServiceFailure)
  deriving DecidableEq

namespace Failure

def message : Failure → String
  | keyName refused => refused.message
  | configuration flaw => "invalid configuration: " ++ flaw.message
  | noPublicKey name _ => "the KMS GetPublicKey call failed for " ++ name
  | tooLarge size limit =>
      "the data size " ++ toString size ++ " is larger than the allowed size: " ++ toString limit
  | noDigest algorithm => "the algorithm " ++ algorithm.shown ++ " does not support digests"
  | otherKey expected actual =>
      "the key name in the response (" ++ Quoted.quote actual ++
        ") does not match the requested key name (" ++ Quoted.quote expected ++ ")"
  | notVerified field => "verifying the provided " ++ field.words ++ " checksum failed"
  | checksum mismatch => mismatch.message
  | remote operation _ => operation.words ++ " failed"

def cause? : Failure → Option ServiceFailure
  | noPublicKey _ cause => some cause
  | remote _ cause => some cause
  | _ => none

def causes (failure : Failure) : List String :=
  match failure.cause? with
  | some cause => cause.message :: cause.causes
  | none => []

end Failure
end KeyCustody
