import KeyCustody.Wire.Message
import KeyCustody.Call

set_option autoImplicit false

namespace KeyCustody.Wire

structure Request (verb : Verb) where
  payload : Option Bytes
  payloadChecksum : Option Checksum
  associatedData : Option Bytes
  associatedDataChecksum : Option Checksum
  deriving DecidableEq

structure EncryptResponse where
  name : Option String
  ciphertext : Option Bytes
  ciphertextChecksum : Option Checksum
  verifiedPlaintext : Option Bool
  verifiedAssociatedData : Option Bool
  protectionLevel : Option String
  deriving DecidableEq

structure DecryptResponse where
  plaintext : Option Bytes
  plaintextChecksum : Option Checksum
  usedPrimary : Option Bool
  protectionLevel : Option String
  deriving DecidableEq

abbrev Response : Verb → Type
  | .encrypt => EncryptResponse
  | .decrypt => DecryptResponse

def payloadNames : Verb → String × String
  | .encrypt => ("plaintext", "plaintextCrc32c")
  | .decrypt => ("ciphertext", "ciphertextCrc32c")

instance (verb : Verb) : Message (Request verb) where
  fields :=
    [((payloadNames verb).1, .blob), ((payloadNames verb).2, .int64),
      ("additionalAuthenticatedData", .blob), ("additionalAuthenticatedDataCrc32c", .int64)]
  distinct := by cases verb <;> decide
  ofRow := fun (payload, payloadChecksum, associatedData, associatedDataChecksum, _) =>
    ⟨payload, payloadChecksum, associatedData, associatedDataChecksum⟩
  row request :=
    (request.payload, request.payloadChecksum, request.associatedData,
      request.associatedDataChecksum, ())
  of_row _ := rfl
  row_of _ := rfl

instance : Message EncryptResponse where
  fields :=
    [("name", .text), ("ciphertext", .blob), ("ciphertextCrc32c", .int64),
      ("verifiedPlaintextCrc32c", .flag), ("verifiedAdditionalAuthenticatedDataCrc32c", .flag),
      ("protectionLevel", .text)]
  distinct := by decide
  ofRow := fun (name, ciphertext, ciphertextChecksum, verifiedPlaintext, verifiedAssociatedData,
      protectionLevel, _) =>
    ⟨name, ciphertext, ciphertextChecksum, verifiedPlaintext, verifiedAssociatedData, protectionLevel⟩
  row response :=
    (response.name, response.ciphertext, response.ciphertextChecksum, response.verifiedPlaintext,
      response.verifiedAssociatedData, response.protectionLevel, ())
  of_row _ := rfl
  row_of _ := rfl

instance : Message DecryptResponse where
  fields :=
    [("plaintext", .blob), ("plaintextCrc32c", .int64), ("usedPrimary", .flag),
      ("protectionLevel", .text)]
  distinct := by decide
  ofRow := fun (plaintext, plaintextChecksum, usedPrimary, protectionLevel, _) =>
    ⟨plaintext, plaintextChecksum, usedPrimary, protectionLevel⟩
  row response :=
    (response.plaintext, response.plaintextChecksum, response.usedPrimary,
      response.protectionLevel, ())
  of_row _ := rfl
  row_of _ := rfl

instance (verb : Verb) : Message (Response verb) :=
  match verb with
  | .encrypt => inferInstanceAs (Message EncryptResponse)
  | .decrypt => inferInstanceAs (Message DecryptResponse)

end KeyCustody.Wire
