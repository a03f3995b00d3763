import KeyCustody.Crc32c

set_option autoImplicit false

namespace KeyCustody

-- A checksum as it is carried: the 32-bit CRC widened to a signed 64-bit integer.
abbrev Checksum := Int64

def Checksum.of (payload : Bytes) : Checksum :=
  Int64.ofNat (Crc32c.crc payload).toNat

inductive Field where
  | plaintext
  | ciphertext
  | associatedData
  | data
  | digest
  | signature
  | publicKeyPem
  deriving DecidableEq

def Field.words : Field → String
  | .plaintext => "plaintext"
  | .ciphertext => "ciphertext"
  | .associatedData => "additional authenticated data"
  | .data => "data"
  | .digest => "digest"
  | .signature => "signature"
  | .publicKeyPem => "public key PEM"

namespace Checksum

structure Mismatch where
  field : Field
  declared : Option Checksum
  computed : Checksum
  deriving DecidableEq

def declaredText : Option Checksum → String
  | none => "None"
  | some checksum => "Some(" ++ toString checksum.toInt ++ ")"

def Mismatch.message (mismatch : Mismatch) : String :=
  mismatch.field.words ++ " checksum mismatch (declared " ++ declaredText mismatch.declared ++
    ", computed " ++ toString mismatch.computed.toInt ++ ")"

inductive Verification where
  | skipped
  | verified
  deriving DecidableEq

def verify (payload : Option Bytes) (supplied : Option Checksum) (field : Field) :
    Except Mismatch Verification :=
  match payload, supplied with
  | some payload, some supplied =>
      if of payload = supplied then .ok .verified
      else .error ⟨field, some supplied, of payload⟩
  | _, _ => .ok .skipped

def expect (payload : Bytes) (declared : Option Checksum) (field : Field) : Except Mismatch Unit :=
  if declared = some (of payload) then .ok ()
  else .error ⟨field, declared, of payload⟩

end Checksum
end KeyCustody
