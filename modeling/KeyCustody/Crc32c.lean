import KeyCustody.Bytes

set_option autoImplicit false

namespace KeyCustody.Crc32c

abbrev Register := BitVec 32

def polynomial : Register := 0x82F63B78#32

def shift (register : Register) : Register :=
  if register.getLsbD 0 then (register >>> 1) ^^^ polynomial else register >>> 1

def shifts (register : Register) : Register :=
  shift (shift (shift (shift (shift (shift (shift (shift register)))))))

def feed (register : Register) (byte : UInt8) : Register :=
  shifts (register ^^^ byte.toBitVec.setWidth 32)

def run (register : Register) (payload : Bytes) : Register :=
  payload.foldl feed register

def crc (payload : Bytes) : Register :=
  run (BitVec.allOnes 32) payload ^^^ BitVec.allOnes 32

theorem run_append (register : Register) (a b : Bytes) :
    run register (a ++ b) = run (run register a) b := by
  simp [run]

theorem shift_xor (a b : Register) : shift (a ^^^ b) = shift a ^^^ shift b := by
  simp only [shift, BitVec.getLsbD_xor, BitVec.ushiftRight_xor_distrib]
  apply BitVec.eq_of_getLsbD_eq
  intro i _
  cases a.getLsbD 0 <;> cases b.getLsbD 0 <;>
    simp [BitVec.getLsbD_xor, Bool.xor_comm, Bool.xor_left_comm]

theorem shifts_xor (a b : Register) : shifts (a ^^^ b) = shifts a ^^^ shifts b := by
  simp only [shifts, shift_xor]

end KeyCustody.Crc32c
