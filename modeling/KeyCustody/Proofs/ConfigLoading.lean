import KeyCustody.Config
import KeyCustody.Proofs.PlainDomain
import KeyCustody.Proofs.Utf8Spelling

set_option autoImplicit false

namespace KeyCustody.Config

def Holds (octets : Option Bytes) (text : String) : Prop :=
  octets = some (Utf8.encode text.toList)

-- The timeout and the URL are read alike, but for the default, the reader and the flaw.
section

variable {α : Type} (usual : α) (read? : String → Option α) (flaw : String → Flaw)

end

example : ofEnvironment ⟨some [0x74], some (Utf8.encode "not a url".toList),
      some (Utf8.encode "18446744073709551616".toList)⟩ =
        .error (.invalidTimeout "18446744073709551616") ∧
    ofEnvironment ⟨some [0x74], none, some [0xFF]⟩ = .ok ⟨defaultBaseUrl, "t", 30⟩ := by
  decide +kernel

end KeyCustody.Config
