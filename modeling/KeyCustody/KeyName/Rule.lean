set_option autoImplicit false

namespace KeyCustody

inductive CharClass where
  | just (c : Char)
  | word
  | notSlash
  | notNewline
  deriving DecidableEq

namespace CharClass

def isWord (c : Char) : Bool :=
  c.isAlphanum || c = '_' || c = '-'

def has : CharClass → Char → Bool
  | just x, c => c = x
  | word, c => isWord c
  | notSlash, c => c ≠ '/'
  | notNewline, c => c ≠ '\n'

def written : CharClass → String
  | just x => String.singleton x
  | word => "[a-zA-Z0-9_-]"
  | notSlash => "[^/]"
  | notNewline => "."

end CharClass

-- Characters of one class: at least `least`, and at most `spare` more unless that is none. A
-- marked run is written in parentheses, which does not change what it describes.
structure Run where
  cls : CharClass
  least : Nat
  spare : Option Nat
  marked : Bool

namespace Run

def count : Nat → Option Nat → String
  | 1, some 0 => ""
  | 0, none => "*"
  | 1, none => "+"
  | least, none => "\x7b" ++ toString least ++ ",\x7d"
  | least, some spare => "\x7b" ++ toString least ++ "," ++ toString (least + spare) ++ "\x7d"

def written (run : Run) : String :=
  let body := run.cls.written ++ count run.least run.spare
  if run.marked then "(" ++ body ++ ")" else body

def next (run : Run) : Option Run :=
  match run.least, run.spare with
  | least + 1, _ => some { run with least }
  | 0, some (spare + 1) => some { run with spare := some spare }
  | 0, some 0 => none
  | 0, none => some run

def followedBy (rest : List Char → Bool) : Run → List Char → Bool
  | run, [] => run.least = 0 && rest []
  | run, c :: s =>
      run.least = 0 && rest (c :: s) ||
        match run.next with
        | some run' => run.cls.has c && run'.followedBy rest s
        | none => false

def Describes (run : Run) (s : List Char) : Prop :=
  run.least ≤ s.length ∧ (∀ spare, run.spare = some spare → s.length ≤ run.least + spare) ∧
    ∀ c ∈ s, run.cls.has c = true

theorem describes_nil (run : Run) : run.Describes [] ↔ run.least = 0 := by
  simp [Describes]

theorem describes_cons (run : Run) (c : Char) (s : List Char) :
    run.Describes (c :: s) ↔
      run.cls.has c = true ∧ ∃ run', run.next = some run' ∧ run'.Describes s := by
  obtain ⟨cls, least, spare, marked⟩ := run
  simp only [Describes, next, List.length_cons, List.forall_mem_cons]
  rcases least with _ | least <;> rcases spare with _ | _ | spare <;> simp <;> grind

theorem followed_by_iff (rest : List Char → Bool) (run : Run) (s : List Char) :
    run.followedBy rest s = true ↔
      ∃ front back, s = front ++ back ∧ run.Describes front ∧ rest back = true := by
  induction s generalizing run with
  | nil =>
      simp only [followedBy, List.nil_eq_append_iff, Bool.and_eq_true, decide_eq_true_eq]
      constructor
      · rintro ⟨none, ok⟩
        exact ⟨[], [], ⟨rfl, rfl⟩, run.describes_nil.mpr none, ok⟩
      · rintro ⟨_, _, ⟨rfl, rfl⟩, fits, ok⟩
        exact ⟨run.describes_nil.mp fits, ok⟩
  | cons c s ih =>
      simp only [followedBy, Bool.or_eq_true, Bool.and_eq_true, decide_eq_true_eq]
      constructor
      · rintro (⟨none, ok⟩ | more)
        · exact ⟨[], c :: s, rfl, run.describes_nil.mpr none, ok⟩
        · cases left : run.next with
          | none => simp [left] at more
          | some run' =>
              simp only [left, Bool.and_eq_true, ih] at more
              obtain ⟨has, front, back, rfl, fits, ok⟩ := more
              exact ⟨c :: front, back, rfl, (run.describes_cons c front).mpr ⟨has, run', left, fits⟩, ok⟩
      · rintro ⟨front, back, split, fits, ok⟩
        cases front with
        | nil =>
            rw [List.nil_append] at split
            exact .inl ⟨run.describes_nil.mp fits, split ▸ ok⟩
        | cons x front =>
            obtain ⟨rfl, rfl⟩ := List.cons.inj split
            obtain ⟨has, run', left, fits⟩ := (run.describes_cons c front).mp fits
            refine .inr ?_
            simp only [left, Bool.and_eq_true, ih]
            exact ⟨has, front, back, rfl, fits, ok⟩

end Run

structure Rule where
  runs : List Run

namespace Rule

def written (rule : Rule) : String :=
  String.join (rule.runs.map Run.written)

def accepts (rule : Rule) : List Char → Bool :=
  rule.runs.foldr (fun run rest => run.followedBy rest) List.isEmpty

def Describes (rule : Rule) : List Char → Prop :=
  rule.runs.foldr
    (fun run Rest s => ∃ front back, s = front ++ back ∧ run.Describes front ∧ Rest back) (· = [])

theorem accepts_iff (rule : Rule) (s : List Char) : rule.accepts s = true ↔ rule.Describes s := by
  obtain ⟨runs⟩ := rule
  simp only [accepts, Describes]
  induction runs generalizing s with
  | nil => simp
  | cons run rest ih => simp only [List.foldr_cons, Run.followed_by_iff, ih]

end Rule
end KeyCustody
