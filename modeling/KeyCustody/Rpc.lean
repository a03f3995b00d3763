import KeyCustody.Call
import KeyCustody.Sha2

set_option autoImplicit false

namespace KeyCustody

structure Digest where
  hash : HashFunction
  bytes : Bytes
  deriving DecidableEq

namespace Rpc

structure EncryptResponse extends EncryptReply where
  protectionLevel : ProtectionLevel
  deriving DecidableEq

structure DecryptResponse extends DecryptReply where
  usedPrimary : Bool
  protectionLevel : ProtectionLevel
  deriving DecidableEq

abbrev Response : Verb → Type
  | .encrypt => EncryptResponse
  | .decrypt => DecryptResponse

structure SignRequest where
  name : String
  digest : Option Digest
  digestChecksum : Option Checksum
  data : Bytes
  dataChecksum : Option Checksum
  deriving DecidableEq

structure SignResponse where
  name : String
  signature : Bytes
  signatureChecksum : Option Checksum
  verifiedDigest : Bool
  verifiedData : Bool
  protectionLevel : ProtectionLevel
  deriving DecidableEq

structure PublicKey where
  name : String
  pem : String
  pemChecksum : Option Checksum
  algorithm : Algorithm
  protectionLevel : ProtectionLevel
  deriving DecidableEq

inductive Query where
  | call (verb : Verb) (call : Call verb)
  | sign (request : SignRequest)
  | publicKey (name : String)

abbrev Query.Answer : Query → Type
  | call verb _ => Except ServiceFailure (Response verb)
  | sign _ => Except ServiceFailure SignResponse
  | publicKey _ => Except ServiceFailure PublicKey

abbrev surface : Surface := ⟨Query, Query.Answer⟩

inductive Method where
  | encrypt
  | decrypt
  | asymmetricSign
  | getPublicKey
  deriving DecidableEq

def Method.word : Method → String
  | encrypt => "Encrypt"
  | decrypt => "Decrypt"
  | asymmetricSign => "AsymmetricSign"
  | getPublicKey => "GetPublicKey"

def Method.unserved (method : Method) : ServiceFailure :=
  .rpc .unimplemented (method.word ++ " is not implemented")

def unserved : (query : Query) → query.Answer
  | .call .encrypt _ => .error Method.encrypt.unserved
  | .call .decrypt _ => .error Method.decrypt.unserved
  | .sign _ => .error Method.asymmetricSign.unserved
  | .publicKey _ => .error Method.getPublicKey.unserved

def reply : (verb : Verb) → Response verb → CallReply verb
  | .encrypt => EncryptResponse.toEncryptReply
  | .decrypt => DecryptResponse.toDecryptReply

def calls : Adapter callSurface surface := fun ⟨verb, call⟩ =>
  .ask (.call verb call) fun answer => .done (answer.map (reply verb))

end Rpc
end KeyCustody
