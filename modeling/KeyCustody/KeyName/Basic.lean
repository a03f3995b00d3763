import KeyCustody.KeyName.Grammar
import KeyCustody.Text.Quoted

set_option autoImplicit false

namespace KeyCustody

structure KeyName (grammar : KeyGrammar) where
  text : String
  accepted : grammar.accepts text = true
  deriving DecidableEq

namespace KeyName

inductive Flaw where
  | unset
  | empty
  | outside (grammar : KeyGrammar)
  deriving DecidableEq

def Flaw.message : Flaw → String
  | unset => "the key name is not set"
  | empty => "the key name is empty"
  | outside grammar => "the key name must follow " ++ grammar.written

structure Refused where
  text : String
  flaw : Flaw
  deriving DecidableEq

def Refused.message (refused : Refused) : String :=
  "invalid key name " ++ Quoted.quote refused.text ++ ": " ++ refused.flaw.message

def check (grammar : KeyGrammar) (text : String) : Except Refused (KeyName grammar) :=
  if accepted : grammar.accepts text = true then .ok ⟨text, accepted⟩
  else .error ⟨text, .outside grammar⟩

def parse (grammar : KeyGrammar) (text : String) : Except Refused (KeyName grammar) :=
  if text = "" then .error ⟨text, .empty⟩ else check grammar text

def parse? (grammar : KeyGrammar) : Option String → Except Refused (KeyName grammar)
  | none => .error ⟨"", .unset⟩
  | some text => parse grammar text

def shown {grammar : KeyGrammar} (name : KeyName grammar) : String :=
  "KeyName(" ++ Quoted.quote name.text ++ ")"

inductive Unfit (grammar : KeyGrammar) : Option String → Refused → Prop where
  | unset : Unfit grammar none ⟨"", .unset⟩
  | empty : Unfit grammar (some "") ⟨"", .empty⟩
  | outside {text : String} (filled : text ≠ "") (rejected : grammar.accepts text = false) :
      Unfit grammar (some text) ⟨text, .outside grammar⟩

section

variable {grammar : KeyGrammar}

theorem text_ne_empty (name : KeyName grammar) : name.text ≠ "" := by
  intro empty
  have accepted := name.accepted
  rw [empty] at accepted
  cases grammar <;> exact absurd accepted (by decide)

theorem check_text (name : KeyName grammar) : check grammar name.text = .ok name := by
  simp [check, name.accepted]

theorem check_outside {text : String} (rejected : grammar.accepts text = false) :
    check grammar text = .error ⟨text, .outside grammar⟩ := by
  simp [check, rejected]

theorem parse_own (name : KeyName grammar) : parse grammar name.text = .ok name := by
  rw [parse, if_neg name.text_ne_empty, name.check_text]

theorem parse_unfit {name : Option String} {refused : Refused} (unfit : Unfit grammar name refused) :
    parse? grammar name = .error refused := by
  cases unfit with
  | unset => rfl
  | empty => rfl
  | outside filled rejected => rw [parse?, parse, if_neg filled, check_outside rejected]

theorem fit_or_unfit (grammar : KeyGrammar) (name : Option String) :
    (∃ parsed : KeyName grammar, name = some parsed.text) ∨
      ∃ refused, Unfit grammar name refused := by
  cases name with
  | none => exact .inr ⟨_, .unset⟩
  | some text =>
      by_cases filled : text = ""
      · subst filled
        exact .inr ⟨_, .empty⟩
      · cases accepted : grammar.accepts text with
        | true => exact .inl ⟨⟨text, accepted⟩, rfl⟩
        | false => exact .inr ⟨_, .outside filled accepted⟩

theorem parse_text {text : String} {name : KeyName grammar}
    (parsed : parse grammar text = .ok name) : text = name.text := by
  unfold parse check at parsed
  split at parsed
  · cases parsed
  split at parsed
  · cases parsed
    rfl
  · cases parsed

theorem parse_ok_iff (name : Option String) (parsed : KeyName grammar) :
    parse? grammar name = .ok parsed ↔ name = some parsed.text := by
  constructor
  · intro accepted
    cases name with
    | none => cases accepted
    | some text => exact congrArg some (parse_text accepted)
  · intro named
    rw [named]
    exact parsed.parse_own

theorem parse_error_iff (name : Option String) (refused : Refused) :
    parse? grammar name = .error refused ↔ Unfit grammar name refused := by
  constructor
  · intro rejected
    obtain ⟨parsed, rfl⟩ | ⟨first, unfit⟩ := fit_or_unfit grammar name
    · rw [(parse_ok_iff _ parsed).mpr rfl] at rejected
      cases rejected
    · rw [parse_unfit unfit] at rejected
      cases rejected
      exact unfit
  · exact parse_unfit

end

end KeyName
end KeyCustody
