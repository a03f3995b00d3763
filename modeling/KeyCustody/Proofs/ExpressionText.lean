import KeyCustody.Proofs.KeyNameShape
import KeyCustody.Proofs.DecimalText

set_option autoImplicit false

namespace KeyCustody

structure CharSet where
  negated : Bool
  ranges : List (Char × Char)

namespace CharSet

def has (set : CharSet) (c : Char) : Bool :=
  set.negated != set.ranges.any fun range => range.1 ≤ c && c ≤ range.2

def one (c : Char) : CharSet :=
  ⟨false, [(c, c)]⟩

end CharSet

inductive Expression where
  | start
  | finish
  | char (set : CharSet)
  | empty
  | both (first second : Expression)
  | repeated (body : Expression) (least : Nat) (most : Option Nat)

namespace Expression

def sequence (parts : List Expression) : Expression :=
  parts.foldr both empty

def Times (Found : List Char → List Char → List Char → Prop) :
    Nat → List Char → List Char → List Char → Prop
  | 0, _, found, _ => found = []
  | more + 1, before, found, after =>
      ∃ front back, found = front ++ back ∧ Found before front (back ++ after) ∧
        Times Found more (before ++ front) back after

def Spans : Expression → List Char → List Char → List Char → Prop
  | start, before, found, _ => before = [] ∧ found = []
  | finish, _, found, after => found = [] ∧ after = []
  | char set, _, found, _ => ∃ c, found = [c] ∧ set.has c = true
  | empty, _, found, _ => found = []
  | both first second, before, found, after =>
      ∃ front back, found = front ++ back ∧ first.Spans before front (back ++ after) ∧
        second.Spans (before ++ front) back after
  | repeated body least most, before, found, after =>
      ∃ times, least ≤ times ∧ (∀ limit, most = some limit → times ≤ limit) ∧
        Times body.Spans times before found after

def FoundIn (expression : Expression) (text : List Char) : Prop :=
  ∃ before found after, text = before ++ found ++ after ∧ expression.Spans before found after

inductive Mode where
  | plain
  | group
  | question
  | set (body : List Char)
  | count (body : List Char)

-- The parts of the innermost open group, the last first, and those before each open group.
structure Reading where
  mode : Mode
  outer : List (List Expression)
  parts : List Expression

def reservedInSet : List Char :=
  ['[', ']', '\\', '^', '&', '~']

def reserved : List Char :=
  ['^', '$', '.', '*', '+', '(', ')', '[', '\x7b', '\\', '|', '?', ']', '\x7d']

def ranges? : List Char → Option (List (Char × Char))
  | [] => some []
  | low :: '-' :: high :: rest => do
      if low ∈ reservedInSet ∨ high ∈ reservedInSet ∨ high < low then none
      else some ((low, high) :: (← ranges? rest))
  | c :: rest => do
      if c ∈ reservedInSet then none else some ((c, c) :: (← ranges? rest))

def set? : List Char → Option CharSet
  | [] => none
  | ['^'] => none
  | '^' :: body => (ranges? body).map (⟨true, ·⟩)
  | body => (ranges? body).map (⟨false, ·⟩)

def count? (body : List Char) : Option (Nat × Option Nat) :=
  match List.splitOn ',' body with
  | [times] => (Decimal.natural? times).map fun n => (n, some n)
  | [least, []] => (Decimal.natural? least).map fun n => (n, none)
  | [least, most] => do
      let least ← Decimal.natural? least
      let most ← Decimal.natural? most
      if least ≤ most then some (least, some most) else none
  | _ => none

namespace Reading

def add (reading : Reading) (part : Expression) : Reading :=
  ⟨.plain, reading.outer, part :: reading.parts⟩

def repeatLast? (reading : Reading) (least : Nat) (most : Option Nat) : Option Reading :=
  match reading.parts with
  | [] => none
  | last :: parts => some ⟨.plain, reading.outer, repeated last least most :: parts⟩

def meet? (reading : Reading) : Char → Option Reading
  | '^' => some (reading.add start)
  | '$' => some (reading.add finish)
  | '.' => some (reading.add (char ⟨true, [('\n', '\n')]⟩))
  | '*' => reading.repeatLast? 0 none
  | '+' => reading.repeatLast? 1 none
  | '(' => some ⟨.group, reading.parts :: reading.outer, []⟩
  | ')' =>
      match reading.outer with
      | [] => none
      | parts :: outer => some ⟨.plain, outer, sequence reading.parts.reverse :: parts⟩
  | '[' => some { reading with mode := .set [] }
  | '\x7b' => some { reading with mode := .count [] }
  | c => if c ∈ reserved then none else some (reading.add (char (.one c)))

def step? (reading : Reading) (c : Char) : Option Reading :=
  match reading.mode with
  | .plain => reading.meet? c
  | .group =>
      if c = '?' then some { reading with mode := .question }
      else Reading.meet? { reading with mode := .plain } c
  | .question => if c = ':' then some { reading with mode := .plain } else none
  | .set body =>
      if c = ']' then (set? body.reverse).map fun set => reading.add (char set)
      else some { reading with mode := .set (c :: body) }
  | .count body =>
      if c = '\x7d' then (count? body.reverse).bind fun count => reading.repeatLast? count.1 count.2
      else some { reading with mode := .count (c :: body) }

def done? : Reading → Option Expression
  | ⟨.plain, [], parts⟩ => some (sequence parts.reverse)
  | _ => none

end Reading

def read? (text : List Char) : Option Expression :=
  (text.foldlM Reading.step? ⟨.plain, [], []⟩).bind Reading.done?

end Expression

namespace CharSet

theorem within_single (c x : Char) : (decide (c ≤ x) && decide (x ≤ c)) = decide (x = c) := by
  rw [← Bool.decide_and, decide_eq_decide]
  exact ⟨fun within => Char.le_antisymm within.2 within.1,
    fun same => same ▸ ⟨Char.le_refl x, Char.le_refl x⟩⟩

theorem has_one (c x : Char) : (one c).has x = decide (x = c) := by
  simp [has, one, within_single]

end CharSet

namespace CharClass

def set : CharClass → CharSet
  | just c => .one c
  | word => ⟨false, [('a', 'z'), ('A', 'Z'), ('0', '9'), ('_', '_'), ('-', '-')]⟩
  | notSlash => ⟨true, [('/', '/')]⟩
  | notNewline => ⟨true, [('\n', '\n')]⟩

theorem has_set (cls : CharClass) (c : Char) : cls.set.has c = cls.has c := by
  cases cls with
  | just x => exact CharSet.has_one x c
  | word =>
      have lower : (decide ('a' ≤ c) && decide (c ≤ 'z')) = c.isLower := rfl
      have upper : (decide ('A' ≤ c) && decide (c ≤ 'Z')) = c.isUpper := (Bool.decide_and ..).symm
      have digit : (decide ('0' ≤ c) && decide (c ≤ '9')) = c.isDigit := rfl
      have letter : c.isAlphanum = (c.isUpper || c.isLower || c.isDigit) := rfl
      simp [set, CharSet.has, has, isWord, letter, CharSet.within_single, lower, upper, digit,
        Bool.or_assoc, Bool.or_left_comm]
  | notSlash =>
      simp [set, CharSet.has, has, CharSet.within_single]
  | notNewline =>
      simp [set, CharSet.has, has, CharSet.within_single]

def Plain : CharClass → Prop
  | just c => c ∉ Expression.reserved
  | _ => True

instance : DecidablePred Plain
  | just c => inferInstanceAs (Decidable (c ∉ Expression.reserved))
  | word => .isTrue trivial
  | notSlash => .isTrue trivial
  | notNewline => .isTrue trivial

end CharClass

namespace Expression

theorem times_of_char (set : CharSet) (times : Nat) (before found after : List Char) :
    Times (char set).Spans times before found after ↔
      found.length = times ∧ ∀ c ∈ found, set.has c = true := by
  induction times generalizing before found with
  | zero =>
      simp only [Times, List.length_eq_zero_iff]
      constructor
      · rintro rfl
        simp
      · exact And.left
  | succ more ih =>
      simp only [Times, ih]
      constructor
      · rintro ⟨_, back, rfl, ⟨c, rfl, has⟩, rfl, all⟩
        simpa using ⟨has, all⟩
      · rintro ⟨length, all⟩
        cases found with
        | nil => simp at length
        | cons c back =>
            simp only [List.mem_cons, forall_eq_or_imp] at all
            exact ⟨[c], back, rfl, ⟨c, rfl, all.1⟩, Nat.succ.inj length, all.2⟩

theorem spans_repeated (body : Expression) (least : Nat) (most : Option Nat)
    (before found after : List Char) :
    (repeated body least most).Spans before found after ↔
      ∃ times, least ≤ times ∧ (∀ limit, most = some limit → times ≤ limit) ∧
        Times body.Spans times before found after :=
  Iff.rfl

theorem spans_sequence_cons (part : Expression) (parts : List Expression)
    (before found after : List Char) :
    (sequence (part :: parts)).Spans before found after ↔
      ∃ front back, found = front ++ back ∧ part.Spans before front (back ++ after) ∧
        (sequence parts).Spans (before ++ front) back after :=
  Iff.rfl

theorem spans_group (part : Expression) (before found after : List Char) :
    (sequence [part]).Spans before found after ↔ part.Spans before found after := by
  rw [spans_sequence_cons]
  constructor
  · rintro ⟨front, _, rfl, spans, rfl⟩
    rwa [List.append_nil]
  · intro spans
    exact ⟨found, [], (List.append_nil found).symm, spans, rfl⟩

theorem found_between_ends (inner : Expression) (text : List Char) :
    (sequence [start, inner, finish]).FoundIn text ↔ inner.Spans [] text [] := by
  constructor
  · rintro ⟨_, _, after, rfl, _, _, rfl, ⟨rfl, rfl⟩, middle, _, rfl, spans, last, _, rfl, ⟨rfl, ends⟩,
      rfl⟩
    rw [List.nil_append] at ends
    rw [ends] at spans ⊢
    simpa using spans
  · intro spans
    refine ⟨[], text, [], by simp, [], text, rfl, ⟨rfl, rfl⟩, text, [], by simp, ?_, [], [], rfl,
      ⟨rfl, rfl⟩, rfl⟩
    simpa using spans

-- The text is read as one more part, whatever is open and has been read before.
def Reads (text : List Char) (part : Expression) : Prop :=
  ∀ outer parts,
    text.foldlM Reading.step? ⟨.plain, outer, parts⟩ = some ⟨.plain, outer, part :: parts⟩

theorem meet_literal (reading : Reading) (c : Char) (literal : c ∉ reserved) :
    reading.meet? c = some (reading.add (char (.one c))) := by
  unfold Reading.meet?
  split <;> first | exact absurd (by decide) literal | exact if_neg literal

theorem reads_literal (c : Char) (literal : c ∉ reserved) : Reads [c] (char (.one c)) := by
  intro outer parts
  simp [Reading.step?, meet_literal _ c literal, Reading.add]

theorem fold_kept (mode : List Char → Mode) (close : Char)
    (kept : ∀ c read outer parts, c ≠ close →
      Reading.step? ⟨mode read, outer, parts⟩ c = some ⟨mode (c :: read), outer, parts⟩)
    (body read : List Char) (free : close ∉ body) (outer : List (List Expression))
    (parts : List Expression) :
    body.foldlM Reading.step? ⟨mode read, outer, parts⟩ =
      some ⟨mode (body.reverse ++ read), outer, parts⟩ := by
  induction body generalizing read with
  | nil => rfl
  | cons c body ih =>
      simp only [List.mem_cons, not_or] at free
      rw [List.foldlM_cons, kept c read outer parts (Ne.symm free.1)]
      simp [ih _ free.2]

theorem kept_in_set (c : Char) (read : List Char) (outer : List (List Expression))
    (parts : List Expression) (inside : c ≠ ']') :
    Reading.step? ⟨.set read, outer, parts⟩ c = some ⟨.set (c :: read), outer, parts⟩ :=
  if_neg inside

theorem kept_in_count (c : Char) (read : List Char) (outer : List (List Expression))
    (parts : List Expression) (inside : c ≠ '\x7d') :
    Reading.step? ⟨.count read, outer, parts⟩ c = some ⟨.count (c :: read), outer, parts⟩ :=
  if_neg inside

theorem reads_set (body : List Char) (set : CharSet) (free : ']' ∉ body)
    (value : set? body = some set) :
    Reads ('[' :: body ++ [']']) (char set) := by
  intro outer parts
  have first : Reading.step? ⟨.plain, outer, parts⟩ '[' = some ⟨.set [], outer, parts⟩ := rfl
  have inside := fold_kept .set ']' kept_in_set body [] free outer parts
  rw [List.cons_append, List.foldlM_cons, first]
  simp only [Option.bind_eq_bind, Option.bind_some, List.foldlM_append, inside]
  simp [Reading.step?, value, Reading.add]

theorem fold_braces (body : List Char) (least : Nat) (most : Option Nat) (free : '\x7d' ∉ body)
    (value : count? body = some (least, most)) (outer : List (List Expression)) (last : Expression)
    (parts : List Expression) :
    ('\x7b' :: body ++ ['\x7d']).foldlM Reading.step? ⟨.plain, outer, last :: parts⟩ =
      some ⟨.plain, outer, repeated last least most :: parts⟩ := by
  have first : Reading.step? ⟨.plain, outer, last :: parts⟩ '\x7b' =
      some ⟨.count [], outer, last :: parts⟩ := rfl
  have inside := fold_kept .count '\x7d' kept_in_count body [] free outer (last :: parts)
  rw [List.cons_append, List.foldlM_cons, first]
  simp only [Option.bind_eq_bind, Option.bind_some, List.foldlM_append, inside]
  simp [Reading.step?, value, Reading.repeatLast?]

theorem reads_group (c : Char) (body : List Char) (part : Expression) (bare : c ≠ '?')
    (reads : Reads (c :: body) part) : Reads ('(' :: c :: body ++ [')']) (sequence [part]) := by
  intro outer parts
  have first : Reading.step? ⟨.plain, outer, parts⟩ '(' = some ⟨.group, parts :: outer, []⟩ := rfl
  have same : Reading.step? ⟨.group, parts :: outer, []⟩ c =
      Reading.step? ⟨.plain, parts :: outer, []⟩ c := if_neg bare
  have inner := reads (parts :: outer) []
  rw [List.foldlM_cons, ← same, ← List.foldlM_cons] at inner
  rw [List.cons_append, List.foldlM_cons, first]
  simp only [Option.bind_eq_bind, Option.bind_some, List.foldlM_append, inner]
  rfl

end Expression

namespace Run

def counted (run : Run) : Expression :=
  match run.least, run.spare with
  | 1, some 0 => .char run.cls.set
  | least, spare => .repeated (.char run.cls.set) least (spare.map (least + ·))

def expression (run : Run) : Expression :=
  if run.marked then .sequence [run.counted] else run.counted

theorem counted_spans_iff (run : Run) (before found after : List Char) :
    run.counted.Spans before found after ↔ run.Describes found := by
  obtain ⟨cls, least, spare, marked⟩ := run
  rw [counted]
  split
  · rename_i one none
    simp only at one none
    subst one none
    rw [single_describes_iff, Expression.Spans]
    simp only [CharClass.has_set]
  · simp only [Expression.spans_repeated, Describes, Expression.times_of_char, CharClass.has_set,
      Option.map_eq_some_iff]
    constructor
    · rintro ⟨_, enough, most, rfl, all⟩
      exact ⟨enough, fun spare some => most _ ⟨spare, some, rfl⟩, all⟩
    · rintro ⟨enough, most, all⟩
      refine ⟨found.length, enough, ?_, rfl, all⟩
      rintro _ ⟨spare, some, rfl⟩
      exact most spare some

theorem spans_iff (run : Run) (before found after : List Char) :
    run.expression.Spans before found after ↔ run.Describes found := by
  rw [expression]
  split
  · rw [Expression.spans_group, counted_spans_iff]
  · exact run.counted_spans_iff before found after

theorem reads_class (cls : CharClass) (plain : cls.Plain) :
    Expression.Reads cls.written.toList (.char cls.set) := by
  cases cls with
  | just c =>
      rw [CharClass.written, String.toList_singleton]
      exact Expression.reads_literal c plain
  | word => exact Expression.reads_set "a-zA-Z0-9_-".toList _ (by decide) rfl
  | notSlash => exact Expression.reads_set "^/".toList _ (by decide) rfl
  | notNewline => exact fun _ _ => rfl

theorem class_not_asked (cls : CharClass) (plain : cls.Plain) :
    ∃ c rest, cls.written.toList = c :: rest ∧ c ≠ '?' := by
  cases cls with
  | just c =>
      refine ⟨c, [], String.toList_singleton c, ?_⟩
      rintro rfl
      exact plain (by decide)
  | word => exact ⟨'[', _, rfl, by decide⟩
  | notSlash => exact ⟨'[', _, rfl, by decide⟩
  | notNewline => exact ⟨'.', _, rfl, by decide⟩

theorem fold_count (least : Nat) (spare : Option Nat) (several : ¬(least = 1 ∧ spare = some 0))
    (outer : List (List Expression)) (last : Expression) (parts : List Expression) :
    (count least spare).toList.foldlM Expression.Reading.step? ⟨.plain, outer, last :: parts⟩ =
      some ⟨.plain, outer, .repeated last least (spare.map (least + ·)) :: parts⟩ := by
  have comma (n : Nat) : ',' ∉ Nat.toDigits 10 n := (Decimal.Digits.ofNat n).free ',' rfl
  have brace (n : Nat) : '\x7d' ∉ Nat.toDigits 10 n := (Decimal.Digits.ofNat n).free '\x7d' rfl
  unfold count
  split
  · exact absurd ⟨rfl, rfl⟩ several
  · rfl
  · rfl
  · have text : ("\x7b" ++ toString least ++ ",\x7d").toList =
        '\x7b' :: (Nat.toDigits 10 least ++ [',']) ++ ['\x7d'] := by
      simp
    rw [text]
    refine Expression.fold_braces _ _ _ ?_ ?_ outer last parts
    · simp [brace]
    · simp [Expression.count?, List.splitOn_append_cons_self_of_not_mem (comma least), List.splitOn_nil,
        Decimal.natural_of_nat]
  · rename_i spare _
    have text : ("\x7b" ++ toString least ++ "," ++ toString (least + spare) ++ "\x7d").toList =
        '\x7b' :: (Nat.toDigits 10 least ++ ',' :: Nat.toDigits 10 (least + spare)) ++
          ['\x7d'] := by
      simp
    rw [text]
    refine Expression.fold_braces _ _ _ ?_ ?_ outer last parts
    · simp [brace]
    · simp [Expression.count?, List.splitOn_append_cons_self_of_not_mem (comma least),
        List.splitOn_eq_singleton (comma _), Decimal.natural_of_nat]

theorem reads_counted (run : Run) (plain : run.cls.Plain) :
    Expression.Reads (run.cls.written ++ count run.least run.spare).toList run.counted := by
  intro outer parts
  rw [String.toList_append, List.foldlM_append, reads_class run.cls plain outer parts]
  rw [counted]
  split
  · rename_i one none
    rw [one, none]
    rfl
  · rename_i several
    exact fold_count _ _ (fun both => several both.1 both.2) outer _ parts

theorem reads_written (run : Run) (plain : run.cls.Plain) :
    Expression.Reads run.written.toList run.expression := by
  have reads := run.reads_counted plain
  simp only [written, expression]
  split
  · obtain ⟨c, rest, text, bare⟩ := class_not_asked run.cls plain
    rw [String.toList_append, text] at reads
    have grouped := Expression.reads_group c _ _ bare reads
    simpa [text] using grouped
  · exact reads

end Run

namespace Rule

def expression (rule : Rule) : Expression :=
  .sequence (rule.runs.map Run.expression)

theorem spans_iff (rule : Rule) (before found after : List Char) :
    rule.expression.Spans before found after ↔ rule.Describes found := by
  obtain ⟨runs⟩ := rule
  induction runs generalizing before found with
  | nil => exact Iff.rfl
  | cons run rest ih =>
      simp only [expression, List.map_cons, Expression.spans_sequence_cons, describes_run_cons,
        Run.spans_iff] at ih ⊢
      simp only [ih]

theorem fold_written (runs : List Run) (plain : ∀ run ∈ runs, run.cls.Plain)
    (outer : List (List Expression)) (parts : List Expression) :
    (runs.flatMap fun run => run.written.toList).foldlM Expression.Reading.step?
        ⟨.plain, outer, parts⟩ =
      some ⟨.plain, outer, (runs.map Run.expression).reverse ++ parts⟩ := by
  induction runs generalizing parts with
  | nil => rfl
  | cons run rest ih =>
      obtain ⟨first, others⟩ := List.forall_mem_cons.mp plain
      rw [List.flatMap_cons, List.foldlM_append, run.reads_written first]
      simp [ih others]

theorem to_list_written (rule : Rule) :
    rule.written.toList = rule.runs.flatMap fun run => run.written.toList := by
  rw [written, String.toList_join, List.flatMap_map]

section

variable (rule : Rule) (plain : ∀ run ∈ rule.runs, run.cls.Plain)

include plain

theorem read_written : Expression.read? rule.written.toList = some rule.expression := by
  rw [Expression.read?, to_list_written, fold_written rule.runs plain]
  simp [Expression.Reading.done?, expression]

theorem read_between_ends :
    Expression.read? ("^(?:" ++ rule.written ++ ")$").toList =
      some (.sequence [.start, rule.expression, .finish]) := by
  have front : "^(?:".toList.foldlM Expression.Reading.step? ⟨.plain, [], []⟩ =
      some ⟨.plain, [[.start]], []⟩ := rfl
  rw [Expression.read?, String.toList_append, String.toList_append, List.foldlM_append,
    List.foldlM_append, front]
  simp only [Option.bind_eq_bind, Option.bind_some, to_list_written, fold_written rule.runs plain]
  simp [Expression.Reading.step?, Expression.Reading.meet?, Expression.Reading.add,
    Expression.Reading.done?, expression]

end

end Rule

end KeyCustody
