import KeyCustody.Proofs.FieldCodec

set_option autoImplicit false

namespace KeyCustody.Utf8

theorem value_of_nat {v : Nat} (valid : v < 0xD800 ∨ 0xDFFF < v ∧ v < 0x110000) :
    (Char.ofNat v).val.toNat = v := by
  have point : v.isValidChar := valid
  rw [Char.ofNat, dif_pos point]
  rfl

section

variable {a b c d : UInt8}

theorem encode_one (first : a.toNat < 0x80) :
    String.utf8EncodeChar (Char.ofNat a.toNat) = [a] := by
  have value := value_of_nat (v := a.toNat) (by omega)
  simp only [String.utf8EncodeChar, value]
  rw [if_pos (by omega), UInt8.ofNat_toNat]

theorem encode_two (first : 0xC2 ≤ a.toNat ∧ a.toNat < 0xE0)
    (second : 0x80 ≤ b.toNat ∧ b.toNat ≤ 0xBF) :
    String.utf8EncodeChar (Char.ofNat ((a.toNat - 0xC0) * 64 + (b.toNat - 0x80))) = [a, b] := by
  have value := value_of_nat (v := (a.toNat - 0xC0) * 64 + (b.toNat - 0x80)) (by omega)
  simp only [String.utf8EncodeChar, value]
  rw [if_neg (by omega), if_pos (by omega)]
  simp only [List.cons.injEq, and_true, ← UInt8.toNat_inj, UInt8.toNat_ofNat']
  omega

theorem encode_three (first : 0xE0 ≤ a.toNat ∧ a.toNat < 0xF0)
    (second : (if a.toNat = 0xE0 then 0xA0 else 0x80) ≤ b.toNat ∧
      b.toNat ≤ if a.toNat = 0xED then 0x9F else 0xBF)
    (third : 0x80 ≤ c.toNat ∧ c.toNat ≤ 0xBF) :
    String.utf8EncodeChar (Char.ofNat
      (((a.toNat - 0xE0) * 64 + (b.toNat - 0x80)) * 64 + (c.toNat - 0x80))) = [a, b, c] := by
  obtain ⟨follows, notShorter, noSurrogate⟩ : (0x80 ≤ b.toNat ∧ b.toNat ≤ 0xBF) ∧
      (a.toNat = 0xE0 → 0xA0 ≤ b.toNat) ∧ (a.toNat = 0xED → b.toNat ≤ 0x9F) := by
    split at second <;> split at second <;> omega
  have value := value_of_nat
    (v := ((a.toNat - 0xE0) * 64 + (b.toNat - 0x80)) * 64 + (c.toNat - 0x80)) (by omega)
  simp only [String.utf8EncodeChar, value]
  rw [if_neg (by omega), if_neg (by omega), if_pos (by omega)]
  simp only [List.cons.injEq, and_true, ← UInt8.toNat_inj, UInt8.toNat_ofNat']
  omega

theorem encode_four (first : 0xF0 ≤ a.toNat ∧ a.toNat < 0xF5)
    (second : (if a.toNat = 0xF0 then 0x90 else 0x80) ≤ b.toNat ∧
      b.toNat ≤ if a.toNat = 0xF4 then 0x8F else 0xBF)
    (third : 0x80 ≤ c.toNat ∧ c.toNat ≤ 0xBF) (fourth : 0x80 ≤ d.toNat ∧ d.toNat ≤ 0xBF) :
    String.utf8EncodeChar (Char.ofNat
      ((((a.toNat - 0xF0) * 64 + (b.toNat - 0x80)) * 64 + (c.toNat - 0x80)) * 64 +
        (d.toNat - 0x80))) = [a, b, c, d] := by
  obtain ⟨follows, notShorter, notBeyond⟩ : (0x80 ≤ b.toNat ∧ b.toNat ≤ 0xBF) ∧
      (a.toNat = 0xF0 → 0x90 ≤ b.toNat) ∧ (a.toNat = 0xF4 → b.toNat ≤ 0x8F) := by
    split at second <;> split at second <;> omega
  have value := value_of_nat (v := (((a.toNat - 0xF0) * 64 + (b.toNat - 0x80)) * 64 +
    (c.toNat - 0x80)) * 64 + (d.toNat - 0x80)) (by omega)
  simp only [String.utf8EncodeChar, value]
  rw [if_neg (by omega), if_neg (by omega), if_neg (by omega)]
  simp only [List.cons.injEq, and_true, ← UInt8.toNat_inj, UInt8.toNat_ofNat']
  omega

end

theorem no_gap (text : List Char) (symbols : List Symbol) : text.map some ≠ none :: symbols := by
  cases text <;> simp

section

variable {octets : Bytes} {text : List Char}

theorem next_of_read {begun : Begun} (whole : read (some begun) octets = text.map some) :
    ∃ octet rest, octets = octet :: rest ∧
      (begun.low ≤ octet.toNat ∧ octet.toNat ≤ begun.high) ∧
      text.map some = match begun.more with
        | 0 => some (Char.ofNat (begun.value * 64 + (octet.toNat - 0x80))) :: read none rest
        | more + 1 =>
            read (some ⟨begun.value * 64 + (octet.toNat - 0x80), 0x80, 0xBF, more⟩) rest := by
  cases octets with
  | nil => exact absurd whole.symm (no_gap text [])
  | cons octet rest =>
      by_cases within : begun.low ≤ octet.toNat ∧ octet.toNat ≤ begun.high
      · refine ⟨octet, rest, rfl, within, ?_⟩
        rw [← whole]
        cases more : begun.more <;> simp [read, Begun.next, within, more]
      · rw [read, Begun.next, if_neg within] at whole
        exact absurd whole.symm (no_gap text _)

-- One case for each range of the first octet; an octet that cannot be first would leave a gap.
theorem char_of_read {a : UInt8} (whole : read none (a :: octets) = text.map some) :
    ∃ c rest, a :: octets = String.utf8EncodeChar c ++ rest ∧
      text.map some = some c :: read none rest := by
  have step : read none (a :: octets) = (lead a.toNat).1 ++ read (lead a.toNat).2 octets := rfl
  rw [step, lead] at whole
  split at whole
  · rename_i first
    exact ⟨_, octets, congrArg (· ++ octets) (encode_one first).symm, whole.symm⟩
  split at whole
  · exact absurd whole.symm (no_gap text _)
  split at whole
  · have first : 0xC2 ≤ a.toNat ∧ a.toNat < 0xE0 := by omega
    obtain ⟨b, rest, rfl, second, same⟩ := next_of_read whole
    exact ⟨_, rest, congrArg (· ++ rest) (encode_two first second).symm, same⟩
  split at whole
  · have first : 0xE0 ≤ a.toNat ∧ a.toNat < 0xF0 := by omega
    obtain ⟨b, octets, rfl, second, later⟩ := next_of_read whole
    obtain ⟨c, rest, rfl, third, same⟩ := next_of_read later.symm
    exact ⟨_, rest, congrArg (· ++ rest) (encode_three first second third).symm, same⟩
  split at whole
  · have first : 0xF0 ≤ a.toNat ∧ a.toNat < 0xF5 := by omega
    obtain ⟨b, octets, rfl, second, later⟩ := next_of_read whole
    obtain ⟨c, octets, rfl, third, last⟩ := next_of_read later.symm
    obtain ⟨d, rest, rfl, fourth, same⟩ := next_of_read last.symm
    exact ⟨_, rest, congrArg (· ++ rest) (encode_four first second third fourth).symm, same⟩
  · exact absurd whole.symm (no_gap text _)

theorem encode_of_read (whole : read none octets = text.map some) : encode text = octets := by
  induction text generalizing octets with
  | nil =>
      cases octets with
      | nil => rfl
      | cons a octets =>
          obtain ⟨c, rest, -, same⟩ := char_of_read whole
          cases same
  | cons c text ih =>
      cases octets with
      | nil => cases whole
      | cons a octets =>
          obtain ⟨d, rest, spelled, same⟩ := char_of_read whole
          rw [List.map_cons, List.cons.injEq, Option.some.injEq] at same
          obtain ⟨rfl, later⟩ := same
          rw [spelled, ← ih later.symm, encode, encode, List.flatMap_cons]

end

theorem decode_some_iff (octets : Bytes) (text : List Char) :
    decode? octets = some text ↔ octets = encode text := by
  constructor
  · intro read
    rw [decode?, whole?, mapM_some_iff, List.map_id] at read
    exact (encode_of_read read).symm
  · rintro rfl
    exact whole_decode_encode text

example : decode? [0xC0, 0xAF] = none ∧ decode? [0xED, 0xA0, 0x80] = none ∧
    decode? [0xF4, 0x90, 0x80, 0x80] = none ∧ decode? [0xE2, 0x82] = none ∧
    decode? [0xE2, 0x82, 0xAC] = some ['€'] := by
  decide +kernel

end KeyCustody.Utf8
