import KeyCustody.Proofs.FieldCodec
import KeyCustody.Proofs.UrlReading

set_option autoImplicit false

namespace KeyCustody

theorem of_small (P : Char → Prop) (all : ∀ n < 26, P (Char.ofNat (0x61 + n))) {c : Char}
    (small : c.isLower = true) : P c := by
  obtain ⟨least, greatest⟩ := Bool.and_eq_true_iff.mp small
  have low : 0x61 ≤ c.toNat := UInt32.le_iff_toNat_le.mp (of_decide_eq_true least)
  have high : c.toNat ≤ 0x7A := UInt32.le_iff_toNat_le.mp (of_decide_eq_true greatest)
  have holds := all (c.toNat - 0x61) (by omega)
  rwa [Nat.add_sub_cancel' low, Char.ofNat_toNat] at holds

def Plain (name : List Char) : Prop :=
  ∀ c ∈ name, c = '.' ∨ c.isLower = true

theorem Plain.free {name : List Char} (plain : Plain name) {mark : Char} (noStop : mark ≠ '.')
    (noLetter : mark.isLower = false) : mark ∉ name := by
  intro member
  obtain stop | small := plain mark member
  · exact noStop stop
  · rw [noLetter] at small
    cases small

theorem Plain.inert {name : List Char} (plain : Plain name) : ∀ c ∈ name, Inert c := by
  intro c member
  obtain rfl | small := plain c member
  · decide
  · exact of_small Inert (by decide) small

theorem Plain.label {name : List Char} (plain : Plain name) {piece : List Char}
    (among : piece ∈ List.splitOn '.' name) : ∀ c ∈ piece, c.isLower = true := by
  intro c member
  obtain rfl | small := plain c ((Pieces.piece_sublist name piece among).subset member)
  · exact absurd member (Pieces.separator_free name piece among)
  · exact small

namespace Domain

section

variable {label : List Char} (small : ∀ c ∈ label, c.isLower = true)

include small

end

end Domain

namespace Url

namespace Host

end Host

namespace Parser

end Parser

end Url

end KeyCustody
