import KeyCustody.Checksum

set_option autoImplicit false

namespace KeyCustody

namespace Crc32c

theorem shift_top_bit (register : Register) : (shift register).getLsbD 31 = register.getLsbD 0 := by
  unfold shift
  cases low : register.getLsbD 0 with
  | false => simp
  | true =>
      have top : polynomial.getLsbD 31 = true := by decide
      simp [top]

theorem shift_injective (a b : Register) (same : shift a = shift b) : a = b := by
  -- The polynomial has its top bit set, so the bit that was shifted out shows there.
  have low : a.getLsbD 0 = b.getLsbD 0 := by
    rw [← shift_top_bit a, ← shift_top_bit b, same]
  have high : a >>> 1 = b >>> 1 := by
    unfold shift at same
    rw [low] at same
    split at same
    · exact (BitVec.xor_left_inj polynomial).mp same
    · exact same
  apply BitVec.eq_of_getLsbD_eq
  intro i _
  cases i with
  | zero => exact low
  | succ i =>
      have bit := congrArg (fun register : Register => register.getLsbD i) high
      simpa only [BitVec.getLsbD_ushiftRight, Nat.add_comm 1 i] using bit

theorem shifts_injective (a b : Register) (same : shifts a = shifts b) : a = b := by
  iterate 8 apply shift_injective
  exact same

theorem feed_injective (byte : UInt8) (a b : Register) (same : feed a byte = feed b byte) :
    a = b :=
  (BitVec.xor_left_inj _).mp (shifts_injective _ _ same)

theorem run_injective (payload : Bytes) (a b : Register) (same : run a payload = run b payload) :
    a = b := by
  induction payload generalizing a b with
  | nil => exact same
  | cons byte payload ih => exact feed_injective byte a b (ih _ _ same)

def word : Bytes → Register
  | [] => 0#32
  | byte :: rest => byte.toBitVec.setWidth 32 ^^^ (word rest <<< 8)

theorem word_low_bit (byte : UInt8) (rest : Bytes) (i : Nat) (low : i < 8) :
    (word (byte :: rest)).getLsbD i = byte.toBitVec.getLsbD i := by
  have within : i < 32 := by omega
  simp [word, low, within]

theorem word_high_bit (byte : UInt8) (rest : Bytes) (i : Nat) (within : 8 + i < 32) :
    (word (byte :: rest)).getLsbD (8 + i) = (word rest).getLsbD i := by
  have past : ¬ 8 + i < 8 := by omega
  have byte : byte.toBitVec.getLsbD (8 + i) = false := BitVec.getLsbD_of_ge _ _ (by omega)
  simp only [word, BitVec.getLsbD_xor, BitVec.getLsbD_setWidth, BitVec.getLsbD_shiftLeft, within,
    past, byte, Nat.add_sub_cancel_left, decide_true, decide_false, Bool.not_false, Bool.true_and,
    Bool.and_false, Bool.false_xor]

theorem word_bit_beyond (window : Bytes) (i : Nat) (beyond : 8 * window.length ≤ i) :
    (word window).getLsbD i = false := by
  induction window generalizing i with
  | nil => exact BitVec.getLsbD_zero
  | cons byte rest ih =>
      rw [List.length_cons] at beyond
      by_cases within : i < 32
      · obtain ⟨j, rfl⟩ : ∃ j, i = 8 + j := ⟨i - 8, by omega⟩
        rw [word_high_bit byte rest j within]
        exact ih j (by omega)
      · exact BitVec.getLsbD_of_ge _ i (by omega)

theorem word_injective (a b : Bytes) (length : a.length = b.length) (short : a.length ≤ 4)
    (same : word a = word b) : a = b := by
  induction a generalizing b with
  | nil => exact (List.length_eq_zero_iff.mp length.symm).symm
  | cons x a ih =>
      cases b with
      | nil => simp at length
      | cons y b =>
          simp only [List.length_cons, Nat.add_right_cancel_iff] at length short
          have first : x = y := by
            apply UInt8.toBitVec_inj.mp
            apply BitVec.eq_of_getLsbD_eq
            intro i low
            rw [← word_low_bit x a i low, ← word_low_bit y b i low, same]
          have others : word a = word b := by
            apply BitVec.eq_of_getLsbD_eq
            intro i _
            by_cases within : 8 + i < 32
            · rw [← word_high_bit x a i within, ← word_high_bit y b i within, same]
            · rw [word_bit_beyond a i (by omega), word_bit_beyond b i (by omega)]
          rw [first, ih b length (by omega) others]

theorem shift_shift_left (register : Register) (places : Nat)
    (clear : register.getLsbD (31 - places) = false) :
    shift (register <<< (places + 1)) = register <<< places := by
  have low : (register <<< (places + 1)).getLsbD 0 = false := by simp
  simp only [shift, low, Bool.false_eq_true, if_false]
  apply BitVec.eq_of_getLsbD_eq
  intro i within
  by_cases last : i = 31
  · subst last
    rw [BitVec.getLsbD_shiftLeft, clear, BitVec.getLsbD_ushiftRight,
      BitVec.getLsbD_of_ge _ (1 + 31) (by omega), Bool.and_false]
  · have inside : 1 + i < 32 := by omega
    simp only [BitVec.getLsbD_ushiftRight, BitVec.getLsbD_shiftLeft, inside, within]
    by_cases before : i < places
    · simp [before, show 1 + i < places + 1 by omega]
    · simp [before, show ¬ 1 + i < places + 1 by omega, show 1 + i - (places + 1) = i - places by omega]

theorem shifts_shift_left (register : Register)
    (clear : ∀ i, 24 ≤ i → register.getLsbD i = false) : shifts (register <<< 8) = register := by
  unfold shifts
  iterate 8 rw [shift_shift_left register _ (clear _ (by omega))]
  exact BitVec.shiftLeft_zero register

-- Feeding an octet and then the rest of the window is feeding all of it at once, so registers
-- that end equal held the same exclusive or of start and window.
theorem window_injective (a b : Bytes) (length : a.length = b.length) (short : a.length ≤ 4)
    (s t : Register) (same : run s a = run t b) : s ^^^ word a = t ^^^ word b := by
  induction a generalizing b s t with
  | nil =>
      rw [List.length_eq_zero_iff.mp length.symm] at same ⊢
      exact congrArg (· ^^^ word []) same
  | cons x a ih =>
      cases b with
      | nil => simp at length
      | cons y b =>
          simp only [List.length_cons, Nat.add_right_cancel_iff] at length short
          have later : feed s x ^^^ word a = feed t y ^^^ word b :=
            ih b length (by omega) _ _ same
          rw [← shifts_shift_left (word a) fun i high => word_bit_beyond a i (by omega),
            ← shifts_shift_left (word b) fun i high => word_bit_beyond b i (by omega),
            feed, feed, ← shifts_xor, ← shifts_xor] at later
          simpa only [word, BitVec.xor_assoc] using shifts_injective _ _ later

theorem crc_window (front a b back : Bytes) (length : a.length = b.length) (short : a.length ≤ 4)
    (same : crc (front ++ a ++ back) = crc (front ++ b ++ back)) : a = b := by
  have registers := (BitVec.xor_left_inj _).mp same
  simp only [run_append] at registers
  have windows := window_injective a b length short _ _ (run_injective back _ _ registers)
  exact word_injective a b length short ((BitVec.xor_right_inj _).mp windows)

end Crc32c

structure Burst (sent received : Bytes) : Prop where
  different : received ≠ sent
  length : received.length = sent.length
  window : ∃ start, ∀ i, i < start ∨ start + 4 ≤ i → received[i]? = sent[i]?

namespace Checksum

theorem of_injective (a b : Bytes) (same : of a = of b) : Crc32c.crc a = Crc32c.crc b := by
  have bits := congrArg (fun checksum => checksum.toBitVec.toNat) same
  simp only [of, Int64.toBitVec_ofNat', BitVec.toNat_ofNat] at bits
  have := (Crc32c.crc a).isLt
  have := (Crc32c.crc b).isLt
  exact BitVec.eq_of_toNat_eq (by omega)

theorem burst_detected (sent received : Bytes) (burst : Burst sent received) :
    of received ≠ of sent := by
  intro same
  obtain ⟨start, outside⟩ := burst.window
  -- Both payloads are cut at the ends of the window; only the middle can differ.
  have front : received.take start = sent.take start := by
    apply List.ext_getElem?
    intro i
    simp only [List.getElem?_take]
    split
    · exact outside i (.inl ‹_›)
    · rfl
  have back : received.drop (start + 4) = sent.drop (start + 4) := by
    apply List.ext_getElem?
    intro i
    simp only [List.getElem?_drop]
    exact outside _ (.inr (by omega))
  have parts (payload : Bytes) : payload =
      payload.take start ++ (payload.drop start).take 4 ++ payload.drop (start + 4) := by
    rw [← List.drop_drop, List.append_assoc, List.take_append_drop, List.take_append_drop]
  have crcs := of_injective _ _ same
  rw [parts received, parts sent, front, back] at crcs
  have window := Crc32c.crc_window _ _ _ _
    (by simp [burst.length]) (by rw [List.length_take]; omega) crcs
  apply burst.different
  rw [parts received, parts sent, front, back, window]

end Checksum
end KeyCustody
