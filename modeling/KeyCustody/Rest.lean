import KeyCustody.Wire.Messages

set_option autoImplicit false

namespace KeyCustody.Rest

structure Query where
  verb : Verb
  name : String
  request : Wire.Request verb

abbrev surface : Surface where
  Query := Query
  Answer query := Except ServiceFailure (Wire.Response query.verb)

def request {verb : Verb} (call : Call verb) : Wire.Request verb where
  payload := some call.payload
  payloadChecksum := call.payloadChecksum
  associatedData := some call.associatedData
  associatedDataChecksum := call.associatedDataChecksum

def encryptReply (response : Wire.EncryptResponse) : EncryptReply where
  name := response.name.getD ""
  ciphertext := response.ciphertext.getD []
  ciphertextChecksum := response.ciphertextChecksum
  verifiedPlaintext := response.verifiedPlaintext.getD false
  verifiedAssociatedData := response.verifiedAssociatedData.getD false

def decryptReply (response : Wire.DecryptResponse) : DecryptReply where
  plaintext := response.plaintext.getD []
  plaintextChecksum := response.plaintextChecksum

def reply : (verb : Verb) → Wire.Response verb → CallReply verb
  | .encrypt => encryptReply
  | .decrypt => decryptReply

def calls : Adapter callSurface surface := fun ⟨verb, call⟩ =>
  .ask ⟨verb, call.name, request call⟩ fun answer => .done (answer.map (reply verb))

end KeyCustody.Rest
