import KeyCustody.Json.Reader
import KeyCustody.Proofs.DecimalText

set_option autoImplicit false

namespace KeyCustody.Json

open Decimal (Digits Sign)
open Utf8 (Symbol)

structure Exponent where
  capital : Bool
  sign : Option Sign
  digits : Digits

structure Numeral where
  negative : Bool
  whole : Digits
  fraction : Option Digits
  exponent : Option Exponent
  leading : whole.text.head? = some '0' → whole.text = ['0']

namespace Numeral

def minus (numeral : Numeral) : List Char :=
  if numeral.negative then ['-'] else []

def fractionText : Option Digits → List Char
  | none => []
  | some digits => '.' :: digits.text

def exponentText : Option Exponent → List Char
  | none => []
  | some exponent =>
      (if exponent.capital then 'E' else 'e') :: (Sign.written exponent.sign ++ exponent.digits.text)

def text (numeral : Numeral) : List Char :=
  numeral.minus ++ numeral.whole.text ++ fractionText numeral.fraction ++ exponentText numeral.exponent

def number (numeral : Numeral) : Number :=
  ⟨numeral.negative, numeral.whole.value,
    fractionText numeral.fraction ++ exponentText numeral.exponent⟩

end Numeral

namespace Reader

def Stops (s : List Symbol) : Prop :=
  ∀ c rest, s = some c :: rest → c.isDigit = false ∧ c ≠ '.' ∧ c ≠ 'e' ∧ c ≠ 'E'

theorem digits_read (read : Digits) (s : List Symbol)
    (stops : ∀ c rest, s = some c :: rest → c.isDigit = false) :
    digits1 (read.text.map some ++ s) = some (read.text, s) := by
  have all : ∀ symbol ∈ read.text.map some, isDigit symbol = true := by
    intro symbol listed
    obtain ⟨c, among, rfl⟩ := List.mem_map.mp listed
    exact read.digits c among
  have ends : s.takeWhile isDigit = [] ∧ s.dropWhile isDigit = s := by
    match s, stops with
    | [], _ => exact ⟨rfl, rfl⟩
    | none :: rest, _ => exact ⟨rfl, rfl⟩
    | some c :: rest, stops =>
        have other : isDigit (some c) = false := stops c rest rfl
        simp [other]
  have cut : digits (read.text.map some ++ s) = (read.text, s) := by
    rw [digits, List.takeWhile_append_of_pos all, List.dropWhile_append_of_pos all, ends.1, ends.2]
    simp
  rw [digits1, cut]
  have some := read.some
  split
  · rename_i none
    exact absurd (congrArg Prod.fst none) some
  · rfl

theorem fraction_read (read : Option Digits) (s : List Symbol)
    (stops : ∀ c rest, s = some c :: rest → c.isDigit = false ∧ c ≠ '.') :
    fraction ((Numeral.fractionText read).map some ++ s) = some (Numeral.fractionText read, s) := by
  cases read with
  | none =>
      simp only [Numeral.fractionText, List.map_nil, List.nil_append, fraction]
      split
      · rename_i rest
        exact absurd rfl (stops '.' rest rfl).2
      · rfl
  | some digits =>
      have read := digits_read digits s fun c rest same => (stops c rest same).1
      simp only [Numeral.fractionText, List.map_cons, List.cons_append, fraction, read, Option.map_some]

theorem exponent_read (read : Option Exponent) (s : List Symbol) (stops : Stops s) :
    exponent ((Numeral.exponentText read).map some ++ s) = some (Numeral.exponentText read, s) := by
  cases read with
  | none =>
      simp only [Numeral.exponentText, List.map_nil, List.nil_append, exponent]
      split
      · rename_i c rest
        obtain ⟨-, -, small, capital⟩ := stops c rest rfl
        rw [if_neg (not_or.mpr ⟨small, capital⟩)]
      · rfl
  | some exponent' =>
      obtain ⟨capital, sign, digits⟩ := exponent'
      have read := digits_read digits s fun c rest same => (stops c rest same).1
      have letter : (if capital then 'E' else 'e') = 'e' ∨ (if capital then 'E' else 'e') = 'E' := by
        cases capital
        · exact .inl rfl
        · exact .inr rfl
      simp only [Numeral.exponentText]
      generalize (if capital then 'E' else 'e') = e at letter
      match sign with
      | some .plus =>
          simp only [Sign.written, List.cons_append, List.nil_append, List.map_cons, exponent,
            if_pos letter, read, Option.map_some]
      | some .minus =>
          simp only [Sign.written, List.cons_append, List.nil_append, List.map_cons, exponent,
            if_pos letter, read, Option.map_some]
      | none =>
          have head (c : Char) (rest : List Symbol)
              (same : digits.text.map some ++ s = some c :: rest) : c.isDigit = true := by
            obtain ⟨first, more, text, isDigit⟩ := digits.head
            rw [text] at same
            cases same
            exact isDigit
          simp only [Sign.written, List.cons_append, List.nil_append, List.map_cons, exponent,
            if_pos letter]
          split
          · rename_i rest same
            exact absurd (head '+' _ same) (by decide)
          · rename_i rest same
            exact absurd (head '-' _ same) (by decide)
          · rw [read, Option.map_some]

theorem exponent_stops (read : Option Exponent) (s : List Symbol) (stops : Stops s) (c : Char)
    (rest : List Symbol) (same : (Numeral.exponentText read).map some ++ s = some c :: rest) :
    c.isDigit = false ∧ c ≠ '.' := by
  cases read with
  | none =>
      obtain ⟨digit, point, -⟩ := stops c rest same
      exact ⟨digit, point⟩
  | some exponent =>
      cases same
      cases exponent.capital
      · decide
      · decide

theorem fraction_stops (read : Option Digits) (s : List Symbol)
    (stops : ∀ c rest, s = some c :: rest → c.isDigit = false ∧ c ≠ '.') (c : Char)
    (rest : List Symbol) (same : (Numeral.fractionText read).map some ++ s = some c :: rest) :
    c.isDigit = false := by
  cases read with
  | none => exact (stops c rest same).1
  | some digits =>
      cases same
      rfl

theorem value_of_digits (digits : Digits) : valueOf digits.text = digits.value := by
  simp only [valueOf, Digits.value, Nat.ofDigitChars, Nat.mul_comm]

theorem unsigned_read (numeral : Numeral) (s : List Symbol) (stops : Stops s) :
    unsigned numeral.negative ((numeral.whole.text ++ Numeral.fractionText numeral.fraction ++
        Numeral.exponentText numeral.exponent).map some ++ s) = some (numeral.number, s) := by
  have inExponent := exponent_stops numeral.exponent s stops
  have inFraction := fraction_stops numeral.fraction _ inExponent
  have short : ¬(numeral.whole.text.length > 1 ∧ numeral.whole.text.head? = some '0') := by
    rintro ⟨long, zero⟩
    rw [numeral.leading zero] at long
    exact absurd long (by decide)
  simp only [List.map_append, List.append_assoc, unsigned, digits_read numeral.whole _ inFraction,
    fraction_read numeral.fraction _ inExponent, exponent_read numeral.exponent s stops,
    Option.bind_eq_bind, Option.bind_some, if_neg short, value_of_digits]
  rfl

theorem numeral_read (numeral : Numeral) (s : List Symbol) (stops : Stops s) :
    number (numeral.text.map some ++ s) = some (numeral.number, s) := by
  have read := unsigned_read numeral s stops
  have text : numeral.text = numeral.minus ++ (numeral.whole.text ++
      Numeral.fractionText numeral.fraction ++ Numeral.exponentText numeral.exponent) := by
    simp only [Numeral.text, List.append_assoc]
  rw [text]
  cases negative : numeral.negative with
  | true =>
      have minus : numeral.minus = ['-'] := if_pos negative
      rw [negative] at read
      rw [minus]
      exact read
  | false =>
      obtain ⟨first, more, whole, isDigit⟩ := numeral.whole.head
      have minus : numeral.minus = [] := if_neg (by rw [negative]; decide)
      rw [negative] at read
      rw [minus, List.nil_append, number]
      · exact read
      · intro rest same
        rw [whole] at same
        cases same
        cases isDigit

inductive SpellsPieces : List Symbol → List Piece → Prop
  | close : SpellsPieces [some '"'] []
  | plain {c : Char} {s : List Symbol} {pieces : List Piece} (quote : c ≠ '"')
      (backslash : c ≠ '\\') (shown : ¬c.toNat < 0x20) (rest : SpellsPieces s pieces) :
      SpellsPieces (some c :: s) (.symbol (some c) :: pieces)
  | gap {s : List Symbol} {pieces : List Piece} (rest : SpellsPieces s pieces) :
      SpellsPieces (none :: s) (.symbol none :: pieces)
  | escape {letter c : Char} {s : List Symbol} {pieces : List Piece}
      (escape : escaped? (some letter) = some c) (rest : SpellsPieces s pieces) :
      SpellsPieces (some '\\' :: some letter :: s) (.symbol (some c) :: pieces)
  | unicode {a b c d : Symbol} {value : Nat} {s : List Symbol} {pieces : List Piece}
      (hex : hex4? a b c d = some value) (rest : SpellsPieces s pieces) :
      SpellsPieces (some '\\' :: some 'u' :: a :: b :: c :: d :: s) (.unit value :: pieces)

def Blank (s : List Symbol) : Prop :=
  ∀ symbol ∈ s, isBlank symbol = true

inductive SpellsName : List Symbol → Text → Prop
  | named {before s after : List Symbol} {pieces : List Piece} (leads : Blank before)
      (spelled : SpellsPieces s pieces) (trails : Blank after) :
      SpellsName (before ++ some '"' :: (s ++ (after ++ [some ':']))) (assemble pieces)

mutual

inductive Spells : List Symbol → Json → Prop
  | null : Spells ("null".toList.map some) .null
  | true : Spells ("true".toList.map some) (.bool true)
  | false : Spells ("false".toList.map some) (.bool false)
  | number (numeral : Numeral) : Spells (numeral.text.map some) (.number numeral.number)
  | string {s : List Symbol} {pieces : List Piece} (spelled : SpellsPieces s pieces) :
      Spells (some '"' :: s) (.string (assemble pieces))
  | noItems {blank : List Symbol} (isBlank : Blank blank) :
      Spells (some '[' :: (blank ++ [some ']'])) (.array [])
  | array {s : List Symbol} {items : List Json} (spelled : SpellsItems s items) :
      Spells (some '[' :: s) (.array items)
  | noMembers {blank : List Symbol} (isBlank : Blank blank) :
      Spells (some '\x7b' :: (blank ++ [some '\x7d'])) (.object [])
  | object {s : List Symbol} {members : List (Text × Json)} (spelled : SpellsMembers s members) :
      Spells (some '\x7b' :: s) (.object members)

inductive SpellsItems : List Symbol → List Json → Prop
  | last {before s after : List Symbol} {item : Json} (leads : Blank before) (spelled : Spells s item)
      (trails : Blank after) : SpellsItems (before ++ (s ++ (after ++ [some ']']))) [item]
  | more {before s after next : List Symbol} {item : Json} {items : List Json} (leads : Blank before)
      (spelled : Spells s item) (trails : Blank after) (others : SpellsItems next items) :
      SpellsItems (before ++ (s ++ (after ++ some ',' :: next))) (item :: items)

inductive SpellsMembers : List Symbol → List (Text × Json) → Prop
  | last {name before s after : List Symbol} {key : Text} {item : Json} (named : SpellsName name key)
      (leads : Blank before) (spelled : Spells s item) (trails : Blank after) :
      SpellsMembers (name ++ (before ++ (s ++ (after ++ [some '\x7d'])))) [(key, item)]
  | more {name before s after next : List Symbol} {key : Text} {item : Json}
      {members : List (Text × Json)} (named : SpellsName name key) (leads : Blank before)
      (spelled : Spells s item) (trails : Blank after) (others : SpellsMembers next members) :
      SpellsMembers (name ++ (before ++ (s ++ (after ++ some ',' :: next)))) ((key, item) :: members)

end

theorem skip_cons (c : Char) (shown : isBlank (some c) = false) (s : List Symbol) :
    skip (some c :: s) = some c :: s := by
  simp [skip, shown]

theorem skip_blank {blank : List Symbol} (isBlank : Blank blank) (s : List Symbol) :
    skip (blank ++ s) = skip s :=
  List.dropWhile_append_of_pos isBlank

theorem blank_char {c : Char} (blank : isBlank (some c) = true) :
    c = ' ' ∨ c = '\n' ∨ c = '\t' ∨ c = '\r' := by
  simpa [isBlank, or_assoc] using blank

theorem stops_blank {blank : List Symbol} (isBlank : Blank blank) : Stops blank := by
  intro c rest same
  rw [same] at isBlank
  rcases blank_char (isBlank (some c) List.mem_cons_self) with rfl | rfl | rfl | rfl <;> decide

theorem stops_after {blank : List Symbol} (isBlank : Blank blank) (c : Char)
    (ends : c = ',' ∨ c = ']' ∨ c = '\x7d') (s : List Symbol) : Stops (blank ++ some c :: s) := by
  intro first rest same
  cases blank with
  | nil =>
      cases same
      rcases ends with rfl | rfl | rfl <;> decide
  | cons symbol blank =>
      cases same
      exact stops_blank isBlank first blank rfl

theorem pieces_plain (c : Char) (quote : c ≠ '"') (backslash : c ≠ '\\') (shown : ¬ c.toNat < 0x20)
    (s : List Symbol) :
    pieces (some c :: s) = (pieces s).map fun read => (.symbol (some c) :: read.1, read.2) := by
  rw [pieces]
  · rw [if_neg (not_or.mpr ⟨backslash, shown⟩)]
    cases pieces s <;> rfl
  · exact quote
  · intro _ _ _ _ _ _
    exact backslash
  · intro _ _ _
    exact backslash

theorem pieces_escape (letter c : Char) (escape : escaped? (some letter) = some c)
    (s : List Symbol) :
    pieces (some '\\' :: some letter :: s) =
      (pieces s).map fun read => (.symbol (some c) :: read.1, read.2) := by
  rw [pieces]
  · rw [escape]
    cases pieces s <;> rfl
  · intro _ _ _ _ _ unicode _
    cases unicode
    cases escape

theorem pieces_unicode (a b c d : Symbol) (value : Nat) (hex : hex4? a b c d = some value)
    (s : List Symbol) :
    pieces (some '\\' :: some 'u' :: a :: b :: c :: d :: s) =
      (pieces s).map fun read => (.unit value :: read.1, read.2) := by
  rw [pieces, hex]
  cases pieces s <;> rfl

theorem pieces_read {s : List Symbol} {read : List Piece} (spelled : SpellsPieces s read)
    (rest : List Symbol) : pieces (s ++ rest) = some (read, rest) := by
  induction spelled with
  | close => rfl
  | plain quote backslash shown _ ih =>
      rw [List.cons_append, pieces_plain _ quote backslash shown, ih, Option.map_some]
  | gap _ ih =>
      rw [List.cons_append, pieces, ih]
      rfl
  | escape escape _ ih =>
      rw [List.cons_append, List.cons_append, pieces_escape _ _ escape, ih, Option.map_some]
  | unicode hex _ ih =>
      simp only [List.cons_append, pieces_unicode _ _ _ _ _ hex, ih, Option.map_some]

theorem text_read {s : List Symbol} {read : List Piece} (spelled : SpellsPieces s read)
    (rest : List Symbol) : text (s ++ rest) = some (assemble read, rest) := by
  simp only [text, pieces_read spelled rest, Option.bind_eq_bind, Option.bind_some]

theorem word_read (letters : String) (json : Json) (s : List Symbol) :
    word letters json (letters.toList.map some ++ s) = some (json, s) := by
  simp [word]

theorem numeral_head (numeral : Numeral) :
    ∃ c rest, numeral.text = c :: rest ∧ (c = '-' ∨ c.isDigit = true) := by
  obtain ⟨first, more, whole, isDigit⟩ := numeral.whole.head
  cases negative : numeral.negative with
  | true => exact ⟨'-', _, by rw [Numeral.text, Numeral.minus, if_pos negative]; rfl, .inl rfl⟩
  | false =>
      refine ⟨first, more ++ Numeral.fractionText numeral.fraction ++
        Numeral.exponentText numeral.exponent, ?_, .inr isDigit⟩
      simp [Numeral.text, Numeral.minus, negative, whole]

theorem shown_of_number {c : Char} (number : c = '-' ∨ c.isDigit = true) :
    isBlank (some c) = false := by
  apply Bool.eq_false_iff.mpr
  intro blank
  rcases blank_char blank with rfl | rfl | rfl | rfl <;> exact absurd number (by decide)

theorem value_blank {blank : List Symbol} (isBlank : Blank blank) (fuel : Nat) (s : List Symbol) :
    value fuel (blank ++ s) = value fuel s := by
  cases fuel with
  | zero => rfl
  | succ fuel => simp only [value, skip_blank isBlank]

theorem value_number {c : Char} (head : c = '-' ∨ c.isDigit = true) (fuel : Nat) (s : List Symbol) :
    value (fuel + 1) (some c :: s) =
      (number (some c :: s)).map fun read => (.number read.1, read.2) := by
  rw [value, skip_cons c (shown_of_number head)]
  split
  all_goals first
    | rfl
    | rename_i same
      cases same
      exact absurd head (by decide)

-- No text of a value begins with a blank, or with the bracket that would close an empty array.
theorem spelled_head {s : List Symbol} {json : Json} (spelled : Spells s json) :
    ∃ c rest, s = some c :: rest ∧ isBlank (some c) = false ∧ c ≠ ']' := by
  cases spelled with
  | null => exact ⟨'n', _, rfl, rfl, by decide⟩
  | true => exact ⟨'t', _, rfl, rfl, by decide⟩
  | false => exact ⟨'f', _, rfl, rfl, by decide⟩
  | number numeral =>
      obtain ⟨c, rest, text, number⟩ := numeral_head numeral
      refine ⟨c, rest.map some, by rw [text]; rfl, shown_of_number number, ?_⟩
      rintro rfl
      exact absurd number (by decide)
  | string => exact ⟨'"', _, rfl, rfl, by decide⟩
  | noItems => exact ⟨'[', _, rfl, rfl, by decide⟩
  | array => exact ⟨'[', _, rfl, rfl, by decide⟩
  | noMembers => exact ⟨'\x7b', _, rfl, rfl, by decide⟩
  | object => exact ⟨'\x7b', _, rfl, rfl, by decide⟩

theorem items_head {s : List Symbol} {items : List Json} (spelled : SpellsItems s items)
    (rest : List Symbol) : ∃ c more, skip (s ++ rest) = some c :: more ∧ c ≠ ']' := by
  cases spelled with
  | last leads spelled trails =>
      obtain ⟨c, more, rfl, shown, other⟩ := spelled_head spelled
      rw [List.append_assoc, skip_blank leads]
      exact ⟨c, _, skip_cons c shown _, other⟩
  | more leads spelled trails others =>
      obtain ⟨c, more, rfl, shown, other⟩ := spelled_head spelled
      rw [List.append_assoc, skip_blank leads]
      exact ⟨c, _, skip_cons c shown _, other⟩

theorem name_head {s : List Symbol} {key : Text} (named : SpellsName s key) (rest : List Symbol) :
    ∃ more, skip (s ++ rest) = some '"' :: more := by
  cases named with
  | named leads spelled trails =>
      rw [List.append_assoc, skip_blank leads]
      exact ⟨_, skip_cons '"' rfl _⟩

theorem members_head {s : List Symbol} {members : List (Text × Json)}
    (spelled : SpellsMembers s members) (rest : List Symbol) :
    ∃ more, skip (s ++ rest) = some '"' :: more := by
  cases spelled with
  | last named =>
      rw [List.append_assoc]
      exact name_head named _
  | more named =>
      rw [List.append_assoc]
      exact name_head named _

theorem value_items {c : Char} {s more : List Symbol} (head : skip s = some c :: more)
    (other : c ≠ ']') (fuel : Nat) :
    value (fuel + 1) (some '[' :: s) = (items fuel s).map fun read => (.array read.1, read.2) := by
  simp only [value, skip_cons '[' rfl, head]
  split
  · rename_i same
    cases same
    exact absurd rfl other
  · rfl

theorem value_members {s more : List Symbol} (head : skip s = some '"' :: more) (fuel : Nat) :
    value (fuel + 1) (some '\x7b' :: s) =
      (members fuel s).map fun read => (.object read.1, read.2) := by
  simp only [value, skip_cons '\x7b' rfl, head]
  rfl

section

variable {fuel : Nat} {s rest back : List Symbol} {item : Json} {others : List Json}
  {name : List Symbol} {key : Text} {members' : List (Text × Json)}
  (read : value fuel s = some (item, rest))

include read

theorem items_last (close : skip rest = some ']' :: back) :
    items (fuel + 1) s = some ([item], back) := by
  simp only [items, read, close, Option.bind_eq_bind, Option.bind_some]

theorem items_more {next : List Symbol} (comma : skip rest = some ',' :: next)
    (later : items fuel next = some (others, back)) :
    items (fuel + 1) s = some (item :: others, back) := by
  simp only [items, read, comma, later, Option.bind_eq_bind, Option.bind_some]

theorem members_last (named : SpellsName name key) (close : skip rest = some '\x7d' :: back) :
    members (fuel + 1) (name ++ s) = some ([(key, item)], back) := by
  cases named with
  | named leads spelled trails =>
      simp only [List.append_assoc, List.cons_append, List.nil_append, members, skip_blank leads,
        skip_cons '"' rfl, text_read spelled, skip_blank trails, skip_cons ':' rfl, read, close,
        Option.bind_eq_bind, Option.bind_some]

theorem members_more (named : SpellsName name key) {next : List Symbol}
    (comma : skip rest = some ',' :: next) (later : members fuel next = some (members', back)) :
    members (fuel + 1) (name ++ s) = some ((key, item) :: members', back) := by
  cases named with
  | named leads spelled trails =>
      simp only [List.append_assoc, List.cons_append, List.nil_append, members, skip_blank leads,
        skip_cons '"' rfl, text_read spelled, skip_blank trails, skip_cons ':' rfl, read, comma,
        later, Option.bind_eq_bind, Option.bind_some]

end

mutual

-- By recursion on the text; each of its parts is shorter, and so the fuel lasts.
theorem value_read {s : List Symbol} {json : Json} (spelled : Spells s json) (fuel : Nat)
    (enough : s.length ≤ fuel) (rest : List Symbol) (stops : Stops rest) :
    value fuel (s ++ rest) = some (json, rest) := by
  obtain ⟨fuel, rfl⟩ : ∃ less, fuel = less + 1 := by
    obtain ⟨c, more, rfl, -⟩ := spelled_head spelled
    exact ⟨fuel - 1, by simp at enough; omega⟩
  cases spelled with
  | null =>
      have read := word_read "ull" .null rest
      show value (fuel + 1) (some 'n' :: ("ull".toList.map some ++ rest)) = _
      simp only [value, skip_cons 'n' rfl, read]
  | true =>
      have read := word_read "rue" (.bool true) rest
      show value (fuel + 1) (some 't' :: ("rue".toList.map some ++ rest)) = _
      simp only [value, skip_cons 't' rfl, read]
  | false =>
      have read := word_read "alse" (.bool false) rest
      show value (fuel + 1) (some 'f' :: ("alse".toList.map some ++ rest)) = _
      simp only [value, skip_cons 'f' rfl, read]
  | number numeral =>
      have read := numeral_read numeral rest stops
      obtain ⟨c, more, text, head⟩ := numeral_head numeral
      rw [text] at read ⊢
      rw [List.map_cons, List.cons_append] at read ⊢
      rw [value_number head, read, Option.map_some]
  | string spelled =>
      have read := text_read spelled rest
      simp only [List.cons_append, value, skip_cons '"' rfl, read, Option.map_some]
  | noItems isBlank =>
      have head := skip_blank isBlank (some ']' :: rest)
      rw [skip_cons ']' rfl] at head
      simp only [List.cons_append, List.append_assoc, List.nil_append, value, skip_cons '[' rfl, head]
  | array spelled =>
      obtain ⟨c, more, head, other⟩ := items_head spelled rest
      have read := items_read spelled fuel (by simpa using enough) rest
      rw [List.cons_append, value_items head other, read, Option.map_some]
  | noMembers isBlank =>
      have head := skip_blank isBlank (some '\x7d' :: rest)
      rw [skip_cons '\x7d' rfl] at head
      simp only [List.cons_append, List.append_assoc, List.nil_append, value, skip_cons '\x7b' rfl,
        head]
  | object spelled =>
      obtain ⟨more, head⟩ := members_head spelled rest
      have read := members_read spelled fuel (by simpa using enough) rest
      rw [List.cons_append, value_members head, read, Option.map_some]

theorem items_read {s : List Symbol} {read : List Json} (spelled : SpellsItems s read) (fuel : Nat)
    (enough : s.length ≤ fuel) (rest : List Symbol) : items fuel (s ++ rest) = some (read, rest) := by
  obtain ⟨fuel, rfl⟩ : ∃ less, fuel = less + 1 := by
    refine ⟨fuel - 1, ?_⟩
    cases spelled <;> simp at enough <;> omega
  cases spelled with
  | last leads spelled trails =>
      have first := value_read spelled fuel (by simp at enough; omega) _
        (stops_after trails ']' (by decide) rest)
      rw [← value_blank leads] at first
      have close := skip_blank trails (some ']' :: rest)
      simpa using items_last first close
  | @more before s after next item items leads spelled trails others =>
      have first := value_read spelled fuel (by simp at enough; omega) _
        (stops_after trails ',' (by decide) (next ++ rest))
      rw [← value_blank leads] at first
      have comma := skip_blank trails (some ',' :: (next ++ rest))
      have later := items_read others fuel (by simp at enough; omega) rest
      simpa using items_more first comma later

theorem members_read {s : List Symbol} {read : List (Text × Json)} (spelled : SpellsMembers s read)
    (fuel : Nat) (enough : s.length ≤ fuel) (rest : List Symbol) :
    members fuel (s ++ rest) = some (read, rest) := by
  obtain ⟨fuel, rfl⟩ : ∃ less, fuel = less + 1 := by
    refine ⟨fuel - 1, ?_⟩
    cases spelled <;> simp at enough <;> omega
  cases spelled with
  | last named leads spelled trails =>
      have first := value_read spelled fuel (by simp at enough; omega) _
        (stops_after trails '\x7d' (by decide) rest)
      rw [← value_blank leads] at first
      have close := skip_blank trails (some '\x7d' :: rest)
      simpa using members_last first named close
  | @more name before s after next key item members named leads spelled trails others =>
      have first := value_read spelled fuel (by simp at enough; omega) _
        (stops_after trails ',' (by decide) (next ++ rest))
      rw [← value_blank leads] at first
      have comma := skip_blank trails (some ',' :: (next ++ rest))
      have later := members_read others fuel (by simp at enough; omega) rest
      simpa using members_more first named comma later

end

end Reader

def IsDocument (document : Bytes) (json : Json) : Prop :=
  ∃ before s after, Utf8.decode document = before ++ (s ++ after) ∧ Reader.Blank before ∧
    Reader.Spells s json ∧ Reader.Blank after

theorem parse_of_document {document : Bytes} {json : Json} (isDocument : IsDocument document json) :
    parse? document = some json := by
  obtain ⟨before, s, after, decoded, leads, spelled, trails⟩ := isDocument
  have read := Reader.value_read spelled (2 * (before ++ (s ++ after)).length + 2)
    (by simp only [List.length_append]; omega) after (Reader.stops_blank trails)
  rw [← Reader.value_blank leads] at read
  have ended := Reader.skip_blank trails []
  rw [List.append_nil] at ended
  simp only [parse?, decoded, read, Option.bind_eq_bind, Option.bind_some, ended]
  rfl

end KeyCustody.Json
