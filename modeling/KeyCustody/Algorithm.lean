set_option autoImplicit false

namespace KeyCustody

def runTogether (wireName : String) : String :=
  let rec go : Bool → List Char → List Char
    | _, [] => []
    | first, c :: s =>
        if c = '_' then go true s
        else (if first then c else c.toLower) :: go false s
  String.ofList (go true wireName.toList)

inductive Algorithm where
  | unspecified
  | googleSymmetricEncryption
  | rsaSignPss2048Sha256
  | rsaSignPss3072Sha256
  | rsaSignPss4096Sha256
  | rsaSignPss4096Sha512
  | rsaSignPkcs1With2048Sha256
  | rsaSignPkcs1With3072Sha256
  | rsaSignPkcs1With4096Sha256
  | rsaSignPkcs1With4096Sha512
  | rsaSignRawPkcs1With2048
  | rsaSignRawPkcs1With3072
  | rsaSignRawPkcs1With4096
  | rsaDecryptOaep2048Sha256
  | rsaDecryptOaep3072Sha256
  | rsaDecryptOaep4096Sha256
  | rsaDecryptOaep4096Sha512
  | ecSignP256Sha256
  | ecSignP384Sha384
  | ecSignSecp256k1Sha256
  | ecSignEd25519
  | hmacSha256
  | hmacSha1
  | hmacSha384
  | hmacSha512
  | hmacSha224
  | externalSymmetricEncryption
  deriving DecidableEq

namespace Algorithm

def all : List Algorithm :=
  [unspecified, googleSymmetricEncryption, rsaSignPss2048Sha256, rsaSignPss3072Sha256,
    rsaSignPss4096Sha256, rsaSignPss4096Sha512, rsaSignPkcs1With2048Sha256,
    rsaSignPkcs1With3072Sha256, rsaSignPkcs1With4096Sha256, rsaSignPkcs1With4096Sha512,
    rsaSignRawPkcs1With2048, rsaSignRawPkcs1With3072, rsaSignRawPkcs1With4096,
    rsaDecryptOaep2048Sha256, rsaDecryptOaep3072Sha256, rsaDecryptOaep4096Sha256,
    rsaDecryptOaep4096Sha512, ecSignP256Sha256, ecSignP384Sha384, ecSignSecp256k1Sha256,
    ecSignEd25519, hmacSha256, hmacSha1, hmacSha384, hmacSha512, hmacSha224,
    externalSymmetricEncryption]

def wireName : Algorithm → String
  | unspecified => "UNSPECIFIED"
  | googleSymmetricEncryption => "GOOGLE_SYMMETRIC_ENCRYPTION"
  | rsaSignPss2048Sha256 => "RSA_SIGN_PSS_2048_SHA256"
  | rsaSignPss3072Sha256 => "RSA_SIGN_PSS_3072_SHA256"
  | rsaSignPss4096Sha256 => "RSA_SIGN_PSS_4096_SHA256"
  | rsaSignPss4096Sha512 => "RSA_SIGN_PSS_4096_SHA512"
  | rsaSignPkcs1With2048Sha256 => "RSA_SIGN_PKCS1_2048_SHA256"
  | rsaSignPkcs1With3072Sha256 => "RSA_SIGN_PKCS1_3072_SHA256"
  | rsaSignPkcs1With4096Sha256 => "RSA_SIGN_PKCS1_4096_SHA256"
  | rsaSignPkcs1With4096Sha512 => "RSA_SIGN_PKCS1_4096_SHA512"
  | rsaSignRawPkcs1With2048 => "RSA_SIGN_RAW_PKCS1_2048"
  | rsaSignRawPkcs1With3072 => "RSA_SIGN_RAW_PKCS1_3072"
  | rsaSignRawPkcs1With4096 => "RSA_SIGN_RAW_PKCS1_4096"
  | rsaDecryptOaep2048Sha256 => "RSA_DECRYPT_OAEP_2048_SHA256"
  | rsaDecryptOaep3072Sha256 => "RSA_DECRYPT_OAEP_3072_SHA256"
  | rsaDecryptOaep4096Sha256 => "RSA_DECRYPT_OAEP_4096_SHA256"
  | rsaDecryptOaep4096Sha512 => "RSA_DECRYPT_OAEP_4096_SHA512"
  | ecSignP256Sha256 => "EC_SIGN_P256_SHA256"
  | ecSignP384Sha384 => "EC_SIGN_P384_SHA384"
  | ecSignSecp256k1Sha256 => "EC_SIGN_SECP256K1_SHA256"
  | ecSignEd25519 => "EC_SIGN_ED25519"
  | hmacSha256 => "HMAC_SHA256"
  | hmacSha1 => "HMAC_SHA1"
  | hmacSha384 => "HMAC_SHA384"
  | hmacSha512 => "HMAC_SHA512"
  | hmacSha224 => "HMAC_SHA224"
  | externalSymmetricEncryption => "EXTERNAL_SYMMETRIC_ENCRYPTION"

def shown (algorithm : Algorithm) : String :=
  runTogether algorithm.wireName

def ofWireName (name : String) : Algorithm :=
  (all.find? (·.wireName = name)).getD unspecified

theorem mem_all (algorithm : Algorithm) : algorithm ∈ all := by
  cases algorithm <;> decide

end Algorithm

inductive ProtectionLevel where
  | unspecified
  | software
  | hsm
  | external
  | externalVpc
  deriving DecidableEq

namespace ProtectionLevel

def all : List ProtectionLevel :=
  [unspecified, software, hsm, external, externalVpc]

def wireName : ProtectionLevel → String
  | unspecified => "UNSPECIFIED"
  | software => "SOFTWARE"
  | hsm => "HSM"
  | external => "EXTERNAL"
  | externalVpc => "EXTERNAL_VPC"

def shown (level : ProtectionLevel) : String :=
  runTogether level.wireName

def ofWireName (name : String) : ProtectionLevel :=
  (all.find? (·.wireName = name)).getD unspecified

theorem mem_all (level : ProtectionLevel) : level ∈ all := by
  cases level <;> decide

end ProtectionLevel
end KeyCustody
