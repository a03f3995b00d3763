import KeyCustody.KeyName.Version
import KeyCustody.Rest
import KeyCustody.Rpc

set_option autoImplicit false

namespace KeyCustody

inductive Link where
  | rest
  | rpc
  deriving DecidableEq

namespace Link

abbrev surface : Link → Surface
  | rest => Rest.surface
  | rpc => Rpc.surface

def calls : (link : Link) → Adapter callSurface link.surface
  | rest => Rest.calls
  | rpc => Rpc.calls

def only? (rest rpc : Bool) : Option Link :=
  match rest, rpc with
  | true, false => some .rest
  | false, true => some .rpc
  | _, _ => none

end Link

structure EncryptionKey where
  name : KeyName .key
  link : Link

namespace EncryptionKey

def ofName {grammar : KeyGrammar} (name : KeyName grammar) (link : Link) :
    Except Failure EncryptionKey :=
  match KeyName.check .key name.text with
  | .ok name => .ok ⟨name, link⟩
  | .error refused => .error (.keyName refused)

def build (name : Option String) (rest rpc : Bool) : Except Failure EncryptionKey :=
  match KeyName.parse? .key name with
  | .error refused => .error (.keyName refused)
  | .ok name =>
      match Link.only? rest rpc with
      | none => .error (.configuration .notExactlyOne)
      | some link => ofName name link

def describe (key : EncryptionKey) : String :=
  "KmsAead \x7b key_name: " ++ key.name.shown ++ ", .. \x7d"

def call (key : EncryptionKey) (verb : Verb) (payload associatedData : Bytes) : Call verb where
  name := key.name.text
  payload := payload
  payloadChecksum := some (.of payload)
  associatedData := associatedData
  associatedDataChecksum := some (.of associatedData)

def expectReceived (field : Field) (payload : Bytes) (declared : Option Checksum) :
    Except Failure Bytes :=
  match Checksum.expect payload declared field with
  | .ok () => .ok payload
  | .error mismatch => .error (.checksum mismatch)

def acceptEncrypted (key : EncryptionKey) (reply : EncryptReply) : Except Failure Bytes :=
  if withoutVersion reply.name ≠ key.name.text then
    .error (.otherKey key.name.text reply.name)
  else if !reply.verifiedPlaintext then .error (.notVerified .plaintext)
  else if !reply.verifiedAssociatedData then .error (.notVerified .associatedData)
  else expectReceived .ciphertext reply.ciphertext reply.ciphertextChecksum

def acceptDecrypted (reply : DecryptReply) : Except Failure Bytes :=
  expectReceived .plaintext reply.plaintext reply.plaintextChecksum

def accept (key : EncryptionKey) : (verb : Verb) → CallReply verb → Except Failure Bytes
  | .encrypt => key.acceptEncrypted
  | .decrypt => acceptDecrypted

def conclude (key : EncryptionKey) (verb : Verb) :
    Except ServiceFailure (CallReply verb) → Except Failure Bytes
  | .error cause => .error (.remote verb.operation cause)
  | .ok reply => key.accept verb reply

def perform (key : EncryptionKey) (verb : Verb) (payload associatedData : Bytes) :
    Dialogue callSurface (Except Failure Bytes) :=
  .ask ⟨verb, key.call verb payload associatedData⟩ fun answer => .done (key.conclude verb answer)

def encrypt (key : EncryptionKey) (plaintext associatedData : Bytes) :
    Dialogue callSurface (Except Failure Bytes) :=
  key.perform .encrypt plaintext associatedData

def decrypt (key : EncryptionKey) (ciphertext associatedData : Bytes) :
    Dialogue callSurface (Except Failure Bytes) :=
  key.perform .decrypt ciphertext associatedData

def across (key : EncryptionKey) (dialogue : Dialogue callSurface (Except Failure Bytes)) :
    Dialogue key.link.surface (Except Failure Bytes) :=
  dialogue.via key.link.calls

end EncryptionKey
end KeyCustody
