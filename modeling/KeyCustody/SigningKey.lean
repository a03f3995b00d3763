import KeyCustody.Rpc
import KeyCustody.Text.Utf8

set_option autoImplicit false

namespace KeyCustody

namespace Algorithm

-- Signs over data of any shape, so that the service must have the data itself.
def signsData : Algorithm → Bool
  | rsaSignRawPkcs1With2048 | rsaSignRawPkcs1With3072 | rsaSignRawPkcs1With4096
  | ecSignEd25519 => true
  | _ => false

def hash? : Algorithm → Option HashFunction
  | ecSignP256Sha256 | ecSignSecp256k1Sha256
  | rsaSignPss2048Sha256 | rsaSignPss3072Sha256 | rsaSignPss4096Sha256
  | rsaSignPkcs1With2048Sha256 | rsaSignPkcs1With3072Sha256 | rsaSignPkcs1With4096Sha256 =>
      some .sha256
  | ecSignP384Sha384 => some .sha384
  | rsaSignPss4096Sha512 | rsaSignPkcs1With4096Sha512 => some .sha512
  | _ => none

def digest (algorithm : Algorithm) (data : Bytes) : Except Failure Digest :=
  match algorithm.hash? with
  | some hash => .ok ⟨hash, hash.digest data⟩
  | none => .error (.noDigest algorithm)

end Algorithm

def ProtectionLevel.isExternal : ProtectionLevel → Bool
  | external | externalVpc => true
  | _ => false

def needsData (algorithm : Algorithm) (level : ProtectionLevel) : Bool :=
  algorithm.signsData || level.isExternal

structure SigningKey where
  name : KeyName .version
  publicKey : Rpc.PublicKey

namespace SigningKey

def maxDataSize : Nat := 64 * 1024

def acceptPublicKey (name : KeyName .version) :
    Except ServiceFailure Rpc.PublicKey → Except Failure SigningKey
  | .error cause => .error (.noPublicKey name.text cause)
  | .ok publicKey =>
      match Checksum.verify (some (Utf8.encode publicKey.pem.toList)) publicKey.pemChecksum
          .publicKeyPem with
      | .error mismatch => .error (.checksum mismatch)
      | .ok _ => .ok ⟨name, publicKey⟩

def build (name : Option String) (client : Bool) :
    Dialogue Rpc.surface (Except Failure SigningKey) :=
  match KeyName.parse? .version name with
  | .error refused => .done (.error (.keyName refused))
  | .ok name =>
      if client then .ask (.publicKey name.text) fun answer => .done (acceptPublicKey name answer)
      else .done (.error (.configuration .noRpcClient))

def describe (key : SigningKey) : String :=
  "KmsSigner \x7b key_name: " ++ key.name.shown ++ ", algorithm: " ++ key.publicKey.algorithm.shown ++
    ", protection_level: " ++ key.publicKey.protectionLevel.shown ++ ", .. \x7d"

def sent (key : SigningKey) : Field :=
  if needsData key.publicKey.algorithm key.publicKey.protectionLevel then .data else .digest

def dataRequest (key : SigningKey) (data : Bytes) : Rpc.SignRequest where
  name := key.name.text
  digest := none
  digestChecksum := none
  data := data
  dataChecksum := some (.of data)

def digestRequest (key : SigningKey) (digest : Digest) : Rpc.SignRequest where
  name := key.name.text
  digest := some digest
  digestChecksum := some (.of digest.bytes)
  data := []
  dataChecksum := none

def request (key : SigningKey) (data : Bytes) : Except Failure Rpc.SignRequest :=
  if data.length > maxDataSize then .error (.tooLarge data.length maxDataSize)
  else if needsData key.publicKey.algorithm key.publicKey.protectionLevel then
    .ok (key.dataRequest data)
  else (key.publicKey.algorithm.digest data).map key.digestRequest

def verifiedSent (field : Field) (response : Rpc.SignResponse) : Bool :=
  if field = .data then response.verifiedData && !response.verifiedDigest
  else response.verifiedDigest && !response.verifiedData

def accept (key : SigningKey) (response : Rpc.SignResponse) : Except Failure Bytes :=
  if response.name ≠ key.name.text then .error (.otherKey key.name.text response.name)
  else if !verifiedSent key.sent response then .error (.notVerified key.sent)
  else
    match Checksum.expect response.signature response.signatureChecksum .signature with
    | .error mismatch => .error (.checksum mismatch)
    | .ok () => .ok response.signature

def conclude (key : SigningKey) :
    Except ServiceFailure Rpc.SignResponse → Except Failure Bytes
  | .error cause => .error (.remote .asymmetricSign cause)
  | .ok response => key.accept response

def sign (key : SigningKey) (data : Bytes) : Dialogue Rpc.surface (Except Failure Bytes) :=
  match key.request data with
  | .error failure => .done (.error failure)
  | .ok request => .ask (.sign request) fun answer => .done (key.conclude answer)

end SigningKey
end KeyCustody
