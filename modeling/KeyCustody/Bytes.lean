set_option autoImplicit false

namespace KeyCustody

abbrev Bytes := List UInt8

namespace Bytes

def ofNat : Nat → Nat → Bytes
  | 0, _ => []
  | count + 1, value => ofNat count (value / 256) ++ [UInt8.ofNat value]

def toNat (bytes : Bytes) : Nat :=
  bytes.foldl (fun value byte => value * 256 + byte.toNat) 0

def xor (a b : Bytes) : Bytes :=
  List.zipWith (· ^^^ ·) a b

def chunks (size : Nat) (bytes : Bytes) : List Bytes :=
  if _ : bytes = [] ∨ size = 0 then []
  else bytes.take size :: chunks size (bytes.drop size)
termination_by bytes.length
decreasing_by
  rename_i nonempty
  have : 0 < bytes.length := List.length_pos_iff.mpr fun none => nonempty (.inl none)
  simp only [List.length_drop]
  omega

@[simp] theorem length_of_nat (count value : Nat) : (ofNat count value).length = count := by
  induction count generalizing value with
  | zero => rfl
  | succ count ih => simp [ofNat, ih]

theorem xor_self_cancel (a b : Bytes) (fits : a.length ≤ b.length) : xor (xor a b) b = a := by
  induction a generalizing b with
  | nil => simp [xor]
  | cons x a ih =>
      cases b with
      | nil => simp at fits
      | cons y b =>
          have rest := ih b (by simpa using fits)
          simp only [xor, List.zipWith_cons_cons] at rest ⊢
          rw [rest, UInt8.xor_assoc, UInt8.xor_self, UInt8.xor_zero]

end Bytes
end KeyCustody
