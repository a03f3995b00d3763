import KeyCustody.Text.Decimal

set_option autoImplicit false

namespace KeyCustody.Decimal

structure Digits where
  text : List Char
  some : text ≠ []
  digits : ∀ c ∈ text, c.isDigit = true

namespace Digits

def value (digits : Digits) : Nat :=
  Nat.ofDigitChars 10 digits.text 0

def ofNat (n : Nat) : Digits :=
  ⟨Nat.toDigits 10 n, Nat.toDigits_ne_nil, fun _ member =>
    Nat.isDigit_of_mem_toDigits (by decide) (by decide) member⟩

theorem value_of_nat (n : Nat) : (ofNat n).value = n :=
  Nat.ofDigitChars_ten_toDigits

theorem head (digits : Digits) : ∃ c rest, digits.text = c :: rest ∧ c.isDigit = true := by
  obtain ⟨text, some, all⟩ := digits
  cases text with
  | nil => exact absurd rfl some
  | cons c rest => exact ⟨c, rest, rfl, all c List.mem_cons_self⟩

theorem free (digits : Digits) (c : Char) (other : c.isDigit = false) : c ∉ digits.text := by
  intro listed
  rw [digits.digits c listed] at other
  cases other

end Digits

inductive Sign where
  | plus
  | minus

def Sign.written : Option Sign → List Char
  | none => []
  | some .plus => ['+']
  | some .minus => ['-']

def Sign.applied : Option Sign → Nat → Int
  | some .minus, n => -n
  | _, n => n

theorem digit_some_iff (c : Char) (d : Nat) :
    digit? c = some d ↔ c.isDigit = true ∧ d = c.toNat - '0'.toNat := by
  have digit : ('0' ≤ c ∧ c ≤ '9') ↔ c.isDigit = true := by
    simp only [Char.isDigit, Bool.and_eq_true, decide_eq_true_eq]
    exact Iff.rfl
  rw [digit?]
  simp only [digit, Option.ite_none_right_eq_some, Option.some.injEq, @eq_comm _ d]

theorem continue_some_iff (text : List Char) (high n : Nat) :
    continue? high text = some n ↔
      (∀ c ∈ text, c.isDigit = true) ∧ n = Nat.ofDigitChars 10 text high := by
  induction text generalizing high with
  | nil =>
      rw [continue?, Option.some.injEq, eq_comm]
      simp [Nat.ofDigitChars]
  | cons c text ih =>
      rw [List.forall_mem_cons, Nat.ofDigitChars_cons, Nat.mul_comm, and_assoc, continue?]
      cases digit : digit? c with
      | none =>
          have other : c.isDigit ≠ true := fun isDigit => by
            rw [(digit_some_iff c _).mpr ⟨isDigit, rfl⟩] at digit
            cases digit
          exact iff_of_false nofun fun read => other read.1
      | some d =>
          obtain ⟨isDigit, rfl⟩ := (digit_some_iff c d).mp digit
          simp only [ih, isDigit, true_and]

theorem natural_some_iff (text : List Char) (n : Nat) :
    natural? text = some n ↔ ∃ digits : Digits, text = digits.text ∧ n = digits.value := by
  rw [natural?]
  constructor
  · intro read
    by_cases none : text = []
    · simp [none] at read
    · rw [if_neg none] at read
      obtain ⟨digits, value⟩ := (continue_some_iff text 0 n).mp read
      exact ⟨⟨text, none, digits⟩, rfl, value⟩
  · rintro ⟨digits, rfl, rfl⟩
    rw [if_neg digits.some]
    exact (continue_some_iff _ 0 _).mpr ⟨digits.digits, rfl⟩

theorem natural_digits (digits : Digits) : natural? digits.text = some digits.value :=
  (natural_some_iff _ _).mpr ⟨digits, rfl, rfl⟩

theorem natural_of_nat (n : Nat) : natural? (Nat.toDigits 10 n) = some n := by
  have read := natural_digits (.ofNat n)
  rwa [Digits.value_of_nat] at read

theorem zero_leads {digits : Digits} (zero : digits.value = 0) : digits.text.head? = some '0' := by
  obtain ⟨c, rest, text, isDigit⟩ := digits.head
  have least : c.toNat - '0'.toNat = 0 := by
    rw [Digits.value, text, Nat.ofDigitChars_cons, Nat.ofDigitChars_eq_ofDigitChars_zero] at zero
    rcases Nat.mul_eq_zero.mp (Nat.add_eq_zero_iff.mp zero).1 with power | digit
    · exact absurd power (Nat.ne_of_gt (Nat.pow_pos (by decide)))
    · omega
  have bounds : '0'.toNat ≤ c.toNat := by
    simp only [Char.isDigit, Bool.and_eq_true, decide_eq_true_eq] at isDigit
    exact isDigit.1
  have same : c = '0' := by
    apply Char.toNat_inj.mp
    omega
  rw [text, same]
  rfl

theorem head_of_nat (n : Nat) (zero : (Digits.ofNat n).text.head? = some '0') :
    (Digits.ofNat n).text = ['0'] := by
  induction n using Nat.strongRecOn with
  | ind n ih =>
      rcases Nat.lt_or_ge n 10 with small | large
      · have single : (Digits.ofNat n).text = [n.digitChar] := Nat.toDigits_of_lt_base small
        rw [single] at zero ⊢
        simpa using zero
      · have cut : (Digits.ofNat n).text = (Digits.ofNat (n / 10)).text ++ [(n % 10).digitChar] :=
          Nat.toDigits_of_base_le (by decide) large
        obtain ⟨c, rest, text, -⟩ := (Digits.ofNat (n / 10)).head
        rw [cut, text] at zero
        have leads : (Digits.ofNat (n / 10)).text.head? = some '0' := text ▸ zero
        -- What stands before the last digit is then nought, and would not be written.
        have front := congrArg (fun text => Nat.ofDigitChars 10 text 0) (ih (n / 10) (by omega) leads)
        have nought : n / 10 = 0 := (Digits.value_of_nat (n / 10)).symm.trans front
        omega

theorem integer_signed (sign : Option Sign) (digits : Digits) :
    integer? (Sign.written sign ++ digits.text) = some (Sign.applied sign digits.value) := by
  match sign with
  | some .plus => simp [Sign.written, Sign.applied, integer?, natural_digits]
  | some .minus => simp [Sign.written, Sign.applied, integer?, natural_digits]
  | none =>
      rw [Sign.written, List.nil_append, integer?]
      · simp [Sign.applied, natural_digits]
      · rintro rest same
        exact digits.free '-' rfl (same ▸ List.mem_cons_self)
      · rintro rest same
        exact digits.free '+' rfl (same ▸ List.mem_cons_self)

theorem natural_mapped {apply : Int → Int} {text : List Char} {z : Int}
    (read : ((natural? text).bind fun n => some (n : Int)).map apply = some z) :
    ∃ digits : Digits, text = digits.text ∧ z = apply digits.value := by
  cases natural : natural? text with
  | none =>
      rw [natural] at read
      cases read
  | some n =>
      obtain ⟨digits, rfl, rfl⟩ := (natural_some_iff text n).mp natural
      rw [natural] at read
      cases read
      exact ⟨digits, rfl, rfl⟩

theorem integer_some_iff (text : List Char) (z : Int) :
    integer? text = some z ↔
      ∃ (sign : Option Sign) (digits : Digits),
        text = Sign.written sign ++ digits.text ∧ z = Sign.applied sign digits.value := by
  constructor
  · intro read
    unfold integer? at read
    split at read
    · obtain ⟨digits, rfl, rfl⟩ := natural_mapped read
      exact ⟨some .minus, digits, rfl, rfl⟩
    · obtain ⟨digits, rfl, rfl⟩ := natural_mapped read
      exact ⟨some .plus, digits, rfl, rfl⟩
    · obtain ⟨digits, rfl, rfl⟩ := natural_mapped read
      exact ⟨none, digits, rfl, rfl⟩
  · rintro ⟨sign, digits, rfl, rfl⟩
    exact integer_signed sign digits

def Fits64 (z : Int) : Prop :=
  -0x8000000000000000 ≤ z ∧ z < 0x8000000000000000

instance (z : Int) : Decidable (Fits64 z) :=
  inferInstanceAs (Decidable (_ ∧ _))

theorem fits64_to_int (n : Int64) : Fits64 n.toInt :=
  ⟨Int64.le_toInt n, Int64.toInt_lt n⟩

theorem fit64_some_iff (z : Int) (n : Int64) : fit64? z = some n ↔ Fits64 z ∧ n.toInt = z := by
  rw [fit64?]
  constructor
  · intro fits
    split at fits
    · rename_i same
      cases fits
      exact ⟨same ▸ fits64_to_int (.ofInt z), same⟩
    · cases fits
  · rintro ⟨-, rfl⟩
    rw [Int64.ofInt_toInt, if_pos rfl]

end KeyCustody.Decimal
