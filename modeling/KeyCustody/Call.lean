import KeyCustody.Failure
import KeyCustody.Dialogue

set_option autoImplicit false

namespace KeyCustody

inductive Verb where
  | encrypt
  | decrypt
  deriving DecidableEq

def Verb.word : Verb → String
  | .encrypt => "encrypt"
  | .decrypt => "decrypt"

def Verb.operation : Verb → Operation
  | .encrypt => .encryption
  | .decrypt => .decryption

structure Call (verb : Verb) where
  name : String
  payload : Bytes
  payloadChecksum : Option Checksum
  associatedData : Bytes
  associatedDataChecksum : Option Checksum
  deriving DecidableEq

structure EncryptReply where
  name : String
  ciphertext : Bytes
  ciphertextChecksum : Option Checksum
  verifiedPlaintext : Bool
  verifiedAssociatedData : Bool
  deriving DecidableEq

structure DecryptReply where
  plaintext : Bytes
  plaintextChecksum : Option Checksum
  deriving DecidableEq

abbrev CallReply : Verb → Type
  | .encrypt => EncryptReply
  | .decrypt => DecryptReply

abbrev callSurface : Surface where
  Query := (verb : Verb) × Call verb
  Answer query := Except ServiceFailure (CallReply query.1)

end KeyCustody
