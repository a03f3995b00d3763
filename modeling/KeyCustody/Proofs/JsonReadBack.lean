import KeyCustody.Json.Writer
import KeyCustody.Proofs.JsonSpelling

set_option autoImplicit false

namespace KeyCustody.Json

open Utf8 (Symbol)

namespace Reader

def isControl (c : Char) : Bool :=
  c.toNat < 0x20 && !(c = '\x08' || c = '\x0c' || c = '\n' || c = '\r' || c = '\t')

def pieceOf : Symbol → Piece
  | none => .unit 0xD800
  | some c => if isControl c then .unit c.toNat else .symbol (some c)

theorem hex_digit_value (value : Nat) (small : value < 16) :
    hexDigit? (some (hexDigit value)) = some value := by
  have all : ∀ value < 16, hexDigit? (some (hexDigit value)) = some value := by decide
  exact all value small

theorem assemble_unit (value : Nat) (rest : List Piece)
    (unpaired : ∀ low tail, rest = .unit low :: tail → isLow low = false) :
    assemble (.unit value :: rest) =
      (if isHigh value || isLow value then none else some (Char.ofNat value)) :: assemble rest := by
  cases rest with
  | nil => simp only [assemble]; split <;> rfl
  | cons piece rest =>
      cases piece with
      | symbol symbol => simp only [assemble]; split <;> rfl
      | unit low =>
          rw [assemble, unpaired low rest rfl, Bool.and_false]
          simp only [Bool.false_eq_true, if_false]
          split <;> rfl

theorem piece_not_low (symbol : Symbol) (low : Nat) (same : pieceOf symbol = .unit low) :
    isLow low = false := by
  cases symbol with
  | none =>
      cases same
      decide
  | some c =>
      simp only [pieceOf] at same
      split at same
      · rename_i control
        cases same
        simp only [isControl, Bool.and_eq_true, decide_eq_true_eq] at control
        have outside : ¬ 0xDC00 ≤ c.toNat := by omega
        simp [isLow, outside]
      · cases same

theorem assemble_pieces (text : Text) : assemble (text.map pieceOf) = text := by
  induction text with
  | nil => rfl
  | cons symbol text ih =>
      -- No written piece is a low surrogate, so none is taken for a pair with the piece before it.
      have unpaired (low : Nat) (tail : List Piece)
          (same : text.map pieceOf = .unit low :: tail) : isLow low = false := by
        cases text with
        | nil => cases same
        | cons next text => exact piece_not_low next low (List.cons.inj same).1
      cases symbol with
      | none =>
          rw [List.map_cons, pieceOf, assemble_unit _ _ unpaired, ih]
          rfl
      | some c =>
          by_cases control : isControl c = true
          · have small : c.toNat < 0x20 := by
              simp only [isControl, Bool.and_eq_true, decide_eq_true_eq] at control
              exact control.1
            rw [List.map_cons, pieceOf, if_pos control, assemble_unit _ _ unpaired, ih,
              Char.ofNat_toNat]
            have high : ¬ 0xD800 ≤ c.toNat := by omega
            have low : ¬ 0xDC00 ≤ c.toNat := by omega
            simp [isHigh, isLow, high, low]
          · rw [List.map_cons, pieceOf, if_neg control, assemble, ih]

theorem control_hex (value : Nat) (small : value < 0x20) :
    hex4? (some '0') (some '0') (some (hexDigit (value / 16))) (some (hexDigit (value % 16))) =
      some value := by
  have zero : hexDigit? (some '0') = some 0 := by decide
  have whole : ((0 * 16 + 0) * 16 + value / 16) * 16 + value % 16 = value := by omega
  simp only [hex4?, zero, hex_digit_value (value / 16) (by omega),
    hex_digit_value (value % 16) (by omega), Option.bind_eq_bind, Option.bind_some, whole]

theorem symbol_spelled (symbol : Symbol) {s : List Symbol} {pieces : List Piece}
    (rest : SpellsPieces s pieces) :
    SpellsPieces ((writeSymbol symbol).map some ++ s) (pieceOf symbol :: pieces) := by
  cases symbol with
  | none =>
      have surrogate : hex4? (some 'd') (some '8') (some '0') (some '0') = some 0xD800 := by decide
      exact .unicode surrogate rest
  | some c =>
      unfold writeSymbol
      by_cases quote : c = '"'
      · subst quote
        exact .escape (by rfl) rest
      by_cases backslash : c = '\\'
      · subst backslash
        exact .escape (by rfl) rest
      by_cases backspace : c = '\x08'
      · subst backspace
        exact .escape (by rfl) rest
      by_cases feed : c = '\x0c'
      · subst feed
        exact .escape (by rfl) rest
      by_cases newline : c = '\n'
      · subst newline
        exact .escape (by rfl) rest
      by_cases returned : c = '\r'
      · subst returned
        exact .escape (by rfl) rest
      by_cases tab : c = '\t'
      · subst tab
        exact .escape (by rfl) rest
      simp only [if_neg quote, if_neg backslash, if_neg backspace, if_neg feed, if_neg newline,
        if_neg returned, if_neg tab]
      by_cases small : c.toNat < 0x20
      · have control : isControl c = true := by
          simp [isControl, small, backspace, feed, newline, returned, tab]
        rw [if_pos small, pieceOf, if_pos control]
        exact .unicode (control_hex c.toNat small) rest
      · have plain : ¬ isControl c = true := by
          simp [isControl, small]
        rw [if_neg small, pieceOf, if_neg plain]
        exact .plain quote backslash small rest

theorem text_spelled (text : Text) :
    SpellsPieces ((text.flatMap writeSymbol).map some ++ [some '"']) (text.map pieceOf) := by
  induction text with
  | nil => exact .close
  | cons symbol text ih =>
      rw [List.flatMap_cons, List.map_append, List.append_assoc]
      exact symbol_spelled symbol ih

def WritesItself (json : Json) : Prop :=
  Spells ((write json).map some) json

theorem string_writes_itself (text : Text) : WritesItself (.string text) := by
  have spelled := Spells.string (text_spelled text)
  rw [assemble_pieces] at spelled
  simpa [WritesItself, write, writeText] using spelled

theorem bool_writes_itself (flag : Bool) : WritesItself (.bool flag) := by
  cases flag with
  | false => exact .false
  | true => exact .true

theorem blank_nil : Blank [] := by
  intro symbol listed
  cases listed

theorem name_spelled (key : Text) : SpellsName ((writeText key ++ [':']).map some) key := by
  have spelled := SpellsName.named blank_nil (text_spelled key) blank_nil
  rw [assemble_pieces] at spelled
  simpa [writeText] using spelled

theorem members_spelled (written : List (Text × Json)) (nonempty : written ≠ [])
    (each : ∀ member ∈ written, WritesItself member.2) :
    SpellsMembers ((writeMembers written).map some ++ [some '\x7d']) written := by
  induction written with
  | nil => exact absurd rfl nonempty
  | cons member rest ih =>
      obtain ⟨key, item⟩ := member
      obtain ⟨first, others⟩ := List.forall_mem_cons.mp each
      -- Only after a further member is there a comma, so the last one is written by itself.
      cases rest with
      | nil =>
          have spelled := SpellsMembers.last (name_spelled key) blank_nil first blank_nil
          simpa [writeMembers] using spelled
      | cons next rest =>
          have spelled := SpellsMembers.more (name_spelled key) blank_nil first blank_nil
            (ih (List.cons_ne_nil _ _) others)
          rw [writeMembers]
          · simpa using spelled
          · simp

theorem object_writes_itself (written : List (Text × Json))
    (each : ∀ member ∈ written, WritesItself member.2) : WritesItself (.object written) := by
  by_cases empty : written = []
  · subst empty
    exact .noMembers blank_nil
  · have spelled := Spells.object (members_spelled written empty each)
    simpa [WritesItself, write] using spelled

theorem null_writes_itself : WritesItself .null := .null

theorem items_spelled (written : List Json) (nonempty : written ≠ [])
    (each : ∀ item ∈ written, WritesItself item) :
    SpellsItems ((writeItems written).map some ++ [some ']']) written := by
  induction written with
  | nil => exact absurd rfl nonempty
  | cons item rest ih =>
      obtain ⟨first, others⟩ := List.forall_mem_cons.mp each
      cases rest with
      | nil =>
          have spelled := SpellsItems.last blank_nil first blank_nil
          simpa [writeItems] using spelled
      | cons next rest =>
          have spelled := SpellsItems.more blank_nil first blank_nil (ih (List.cons_ne_nil _ _) others)
          rw [writeItems]
          · simpa using spelled
          · simp

theorem array_writes_itself (written : List Json) (each : ∀ item ∈ written, WritesItself item) :
    WritesItself (.array written) := by
  by_cases empty : written = []
  · subst empty
    exact .noItems blank_nil
  · have spelled := Spells.array (items_spelled written empty each)
    simpa [WritesItself, write] using spelled

end Reader

theorem spelled_document {chars : List Char} {json : Json}
    (spelled : Reader.Spells (chars.map some) json) : IsDocument (Utf8.encode chars) json := by
  refine ⟨[], chars.map some, [], ?_, Reader.blank_nil, spelled, Reader.blank_nil⟩
  rw [Utf8.decode_encode, List.nil_append, List.append_nil]

theorem parse_document {json : Json} (written : Reader.WritesItself json) :
    parse? (document json) = some json :=
  parse_of_document (spelled_document written)

end KeyCustody.Json
