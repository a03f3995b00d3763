import KeyCustody.Rest
import KeyCustody.Cipher.Gcm

/-!
A double of the service that lives in memory: its REST surface, with a key of its own for every
key ID. A ciphertext is the nonce followed by the sealed message, so it opens only under the ID that
made it. A call is prepared before it is executed: a malformed name is refused in the first step,
an unknown one in the second.
-/

set_option autoImplicit false

namespace KeyCustody

abbrev SecretKey := BitVec 128

abbrev Nonce := Gcm.Nonce

structure ServiceDouble where
  keys : List (String × SecretKey)
  -- Refuses to encrypt a payload that contradicts its checksum, instead of leaving it unverified.
  strict : Bool

namespace ServiceDouble

def precedes (a b : String) : Bool :=
  Utf8.encode a.toList < Utf8.encode b.toList

def insert (id : String) (key : SecretKey) : List (String × SecretKey) → List (String × SecretKey)
  | [] => [(id, key)]
  | (other, otherKey) :: rest =>
      if id = other then (id, key) :: rest
      else if precedes id other then (id, key) :: (other, otherKey) :: rest
      else (other, otherKey) :: insert id key rest

def ofKeys (keys : List (String × SecretKey)) (strict : Bool) : ServiceDouble where
  keys := keys.foldl (fun sorted entry => insert entry.1 entry.2 sorted) []
  strict := strict

def keyIds (double : ServiceDouble) : List String :=
  double.keys.map Prod.fst

def describe (double : ServiceDouble) : String :=
  "FakeKms \x7b key_ids: " ++ Quoted.quoteAll double.keyIds ++ ", strict_encrypt_checksums: " ++
    (if double.strict then "true" else "false") ++ " \x7d"

def key? (double : ServiceDouble) (name : String) : Option SecretKey :=
  (double.keys.find? (·.1 = name)).map Prod.snd

def key (double : ServiceDouble) (name : String) : Except ServiceFailure SecretKey :=
  match double.key? name with
  | some key => .ok key
  | none => .error (.unknownKey name double.keyIds)

def prepare (name : String) : Except ServiceFailure Unit :=
  if KeyGrammar.path.accepts name then .ok ()
  else .error (.invalidArgument ("parameter name must conform to the pattern " ++
    KeyGrammar.path.written ++ ", got " ++ Quoted.quote name))

def lock (key : SecretKey) (nonce : Nonce) (associatedData plaintext : Bytes) :
    Except ServiceFailure Bytes :=
  match Gcm.seal? (Aes.encryptBlock (Aes.schedule key)) nonce associatedData plaintext with
  | some sealed => .ok (Bytes.ofNat 12 nonce.toNat ++ sealed)
  | none => .error (.cipher "encryption failed")

def unlock (key : SecretKey) (associatedData ciphertext : Bytes) : Except ServiceFailure Bytes :=
  if ciphertext.length < 12 then .error (.cipher "ciphertext too short")
  else
    let nonce := BitVec.ofNat 96 (Bytes.toNat (ciphertext.take 12))
    match Gcm.open? (Aes.encryptBlock (Aes.schedule key)) nonce associatedData
        (ciphertext.drop 12) with
    | some plaintext => .ok plaintext
    | none => .error (.cipher "decryption failed")

def inputVerified (strict : Bool) (payload : Option Bytes) (supplied : Option Checksum)
    (field : Field) : Except ServiceFailure Bool :=
  match Checksum.verify payload supplied field with
  | .ok .verified => .ok true
  | .ok .skipped => .ok false
  | .error mismatch => if strict then .error (.checksum mismatch) else .ok false

def onlySet (flag : Bool) : Option Bool :=
  if flag then some true else none

def protectionLevel : String := "SOFTWARE"

def encrypt (double : ServiceDouble) (nonce : Nonce) (name : String) (request : Wire.Request .encrypt) :
    Except ServiceFailure Wire.EncryptResponse := do
  let key ← double.key name
  let verifiedPlaintext ←
    inputVerified double.strict request.payload request.payloadChecksum .plaintext
  let verifiedAssociatedData ←
    inputVerified double.strict request.associatedData request.associatedDataChecksum .associatedData
  let ciphertext ← lock key nonce (request.associatedData.getD []) (request.payload.getD [])
  return {
    name := some name
    ciphertext := some ciphertext
    ciphertextChecksum := some (.of ciphertext)
    verifiedPlaintext := onlySet verifiedPlaintext
    verifiedAssociatedData := onlySet verifiedAssociatedData
    protectionLevel := some protectionLevel }

def guardInput (payload : Option Bytes) (supplied : Option Checksum) (field : Field) :
    Except ServiceFailure Unit :=
  match Checksum.verify payload supplied field with
  | .ok _ => .ok ()
  | .error mismatch => .error (.checksum mismatch)

structure Opening where
  secret : SecretKey
  associatedData : Bytes
  ciphertext : Bytes

abbrev Opening.surface : Surface where
  Query := Opening
  Answer _ := Except ServiceFailure Bytes

def cipher : FarSide Opening.surface Unit :=
  fun opening state => (unlock opening.secret opening.associatedData opening.ciphertext, state)

def guarded (double : ServiceDouble) (name : String) (request : Wire.Request .decrypt) :
    Except ServiceFailure Opening := do
  let secret ← double.key name
  guardInput request.payload request.payloadChecksum .ciphertext
  guardInput request.associatedData request.associatedDataChecksum .associatedData
  return ⟨secret, request.associatedData.getD [], request.payload.getD []⟩

def replied (plaintext : Bytes) : Wire.DecryptResponse where
  plaintext := if plaintext = [] then none else some plaintext
  plaintextChecksum := some (.of plaintext)
  usedPrimary := some true
  protectionLevel := some protectionLevel

def decryption (double : ServiceDouble) (name : String) (request : Wire.Request .decrypt) :
    Dialogue Opening.surface (Except ServiceFailure Wire.DecryptResponse) :=
  match double.guarded name request with
  | .error failure => .done (.error failure)
  | .ok opening => .ask opening fun answer => .done (answer.map replied)

def decrypt (double : ServiceDouble) (name : String) (request : Wire.Request .decrypt) :
    Except ServiceFailure Wire.DecryptResponse :=
  ((double.decryption name request).hold cipher ()).result

def execute (double : ServiceDouble) (nonce : Nonce) :
    (query : Rest.Query) → Except ServiceFailure (Wire.Response query.verb)
  | ⟨.encrypt, name, request⟩ => double.encrypt nonce name request
  | ⟨.decrypt, name, request⟩ => double.decrypt name request

def answer (double : ServiceDouble) (nonce : Nonce) (query : Rest.Query) :
    Except ServiceFailure (Wire.Response query.verb) :=
  match prepare query.name with
  | .ok () => double.execute nonce query
  | .error failure => .error failure

def farSide (double : ServiceDouble) (draw : Nat → Nonce) : FarSide Rest.surface Nat :=
  fun query drawn => (double.answer (draw drawn) query, drawn + 1)

end ServiceDouble
end KeyCustody
