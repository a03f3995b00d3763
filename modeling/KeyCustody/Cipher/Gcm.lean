import KeyCustody.Cipher.Aes

set_option autoImplicit false

namespace KeyCustody.Gcm

abbrev Block := BitVec 128

abbrev Nonce := BitVec 96

-- The product in the field of blocks, whose first bit is the constant coefficient.
def times (x y : Block) : Block :=
  let step (state : Block × Block) (i : Nat) : Block × Block :=
    (if x.getMsbD i then state.1 ^^^ state.2 else state.1,
      if state.2.getLsbD 0 then (state.2 >>> 1) ^^^ (0xe1#128 <<< 120) else state.2 >>> 1)
  ((List.range 128).foldl step (0, y)).1

def blocks (bytes : Bytes) : List Block :=
  (Bytes.chunks 16 bytes).map fun chunk =>
    BitVec.ofNat 128 (Bytes.toNat (chunk ++ List.replicate (16 - chunk.length) 0))

def authenticate (cipher : Block → Block) (associatedData sealed : Bytes) : Block :=
  let lengths := BitVec.ofNat 128 ((8 * associatedData.length) <<< 64 + 8 * sealed.length)
  let subkey := cipher 0
  (blocks associatedData ++ blocks sealed ++ [lengths]).foldl
    (fun sum block => times (sum ^^^ block) subkey) 0

def counterBlock (nonce : Nonce) (counter : Nat) : Block :=
  nonce ++ BitVec.ofNat 32 counter

def keyStream (cipher : Block → Block) (nonce : Nonce) : Nat → Nat → Bytes
  | 0, _ => []
  | count + 1, counter =>
      Bytes.ofNat 16 (cipher (counterBlock nonce counter)).toNat ++
        keyStream cipher nonce count (counter + 1)

def mask (cipher : Block → Block) (nonce : Nonce) (bytes : Bytes) : Bytes :=
  Bytes.xor bytes (keyStream cipher nonce ((bytes.length + 15) / 16) 2)

def tag (cipher : Block → Block) (nonce : Nonce) (associatedData masked : Bytes) : Bytes :=
  Bytes.ofNat 16 (authenticate cipher associatedData masked ^^^ cipher (counterBlock nonce 1)).toNat

def maxSize : Nat := 1 <<< 36

def seal? (cipher : Block → Block) (nonce : Nonce) (associatedData message : Bytes) :
    Option Bytes :=
  if message.length ≤ maxSize ∧ associatedData.length ≤ maxSize then
    let masked := mask cipher nonce message
    some (masked ++ tag cipher nonce associatedData masked)
  else none

def open? (cipher : Block → Block) (nonce : Nonce) (associatedData sealed : Bytes) :
    Option Bytes :=
  let masked := sealed.take (sealed.length - 16)
  if 16 ≤ sealed.length ∧ masked.length ≤ maxSize + 16 ∧ associatedData.length ≤ maxSize ∧
      sealed.drop (sealed.length - 16) = tag cipher nonce associatedData masked then
    some (mask cipher nonce masked)
  else none

theorem length_key_stream (cipher : Block → Block) (nonce : Nonce) (count counter : Nat) :
    (keyStream cipher nonce count counter).length = 16 * count := by
  induction count generalizing counter with
  | zero => rfl
  | succ count ih => simp [keyStream, ih]; omega

theorem length_mask (cipher : Block → Block) (nonce : Nonce) (bytes : Bytes) :
    (mask cipher nonce bytes).length = bytes.length := by
  simp [mask, Bytes.xor, length_key_stream]
  omega

theorem mask_mask (cipher : Block → Block) (nonce : Nonce) (bytes : Bytes) :
    mask cipher nonce (mask cipher nonce bytes) = bytes := by
  rw [mask, length_mask, mask]
  exact Bytes.xor_self_cancel _ _ (by rw [length_key_stream]; omega)

theorem length_seal {cipher : Block → Block} {nonce : Nonce} {associatedData message sealed : Bytes}
    (done : seal? cipher nonce associatedData message = some sealed) :
    sealed.length = message.length + 16 := by
  simp only [seal?, Option.ite_none_right_eq_some, Option.some.injEq] at done
  obtain ⟨-, rfl⟩ := done
  simp [length_mask, tag]

theorem open_append (cipher : Block → Block) (nonce : Nonce) (associatedData masked last : Bytes)
    (size : last.length = 16) :
    open? cipher nonce associatedData (masked ++ last) =
      if masked.length ≤ maxSize + 16 ∧ associatedData.length ≤ maxSize ∧
          last = tag cipher nonce associatedData masked then some (mask cipher nonce masked)
      else none := by
  have cut : (masked ++ last).length - 16 = masked.length := by
    rw [List.length_append, size, Nat.add_sub_cancel]
  have front : (masked ++ last).take masked.length = masked := List.take_left
  have back : (masked ++ last).drop masked.length = last := List.drop_left
  have long : 16 ≤ (masked ++ last).length := by
    rw [List.length_append, size]
    exact Nat.le_add_left 16 _
  simp only [open?, cut, front, back, long, true_and]

theorem open_seal {cipher : Block → Block} {nonce : Nonce} {associatedData message sealed : Bytes}
    (done : seal? cipher nonce associatedData message = some sealed) :
    open? cipher nonce associatedData sealed = some message := by
  simp only [seal?, Option.ite_none_right_eq_some, Option.some.injEq] at done
  obtain ⟨⟨short, shortData⟩, rfl⟩ := done
  have room : (mask cipher nonce message).length ≤ maxSize + 16 := by
    rw [length_mask]
    exact Nat.le_add_right_of_le short
  rw [open_append _ _ _ _ _ (by simp [tag]), if_pos ⟨room, shortData, rfl⟩, mask_mask]

end KeyCustody.Gcm
