import KeyCustody.Proofs.WireRoundTrip

set_option autoImplicit false

namespace KeyCustody

namespace Json

open Decimal (Digits Sign)

namespace Numeral

structure IsInteger (numeral : Numeral) : Prop where
  fraction : numeral.fraction = none
  exponent : numeral.exponent = none
  notMinusZero : numeral.text ≠ ['-', '0']

def integer (numeral : Numeral) : Int :=
  if numeral.negative then -numeral.whole.value else numeral.whole.value

def ofWhole (negative : Bool) (whole : Nat) : Numeral :=
  ⟨negative, .ofNat whole, none, none, Decimal.head_of_nat whole⟩

theorem number_of_whole (negative : Bool) (whole : Nat) :
    (ofWhole negative whole).number = ⟨negative, whole, []⟩ := by
  simp [ofWhole, number, Digits.value_of_nat, fractionText, exponentText]

theorem whole_writes_itself (negative : Bool) (whole : Nat) :
    Reader.WritesItself (.number ⟨negative, whole, []⟩) := by
  have text : (ofWhole negative whole).text = write (.number ⟨negative, whole, []⟩) := by
    simp only [ofWhole, Numeral.text, minus, Digits.ofNat, fractionText, exponentText, write,
      writeNumber, List.append_nil]
    rfl
  have spelled := Reader.Spells.number (ofWhole negative whole)
  rwa [number_of_whole, text] at spelled

theorem minus_zero_iff {numeral : Numeral} (fraction : numeral.fraction = none)
    (exponent : numeral.exponent = none) :
    numeral.text = ['-', '0'] ↔ numeral.negative = true ∧ numeral.whole.value = 0 := by
  have text : numeral.text = numeral.minus ++ numeral.whole.text := by
    simp [text, fraction, exponent, fractionText, exponentText]
  rw [text, minus]
  constructor
  · intro same
    cases negative : numeral.negative with
    | true =>
        have whole : numeral.whole.text = ['0'] := by simpa [negative] using same
        exact ⟨rfl, by rw [Digits.value, whole]; rfl⟩
    | false =>
        have whole : numeral.whole.text = ['-', '0'] := by simpa [negative] using same
        have hyphen := numeral.whole.free '-' rfl
        simp [whole] at hyphen
  · rintro ⟨negative, nought⟩
    rw [negative, numeral.leading (Decimal.zero_leads nought)]
    rfl

end Numeral

inductive StandsFor : Json → Int → Prop
  | numeral (numeral : Numeral) (isInteger : numeral.IsInteger) :
      StandsFor (.number numeral.number) numeral.integer
  | text (sign : Option Sign) (digits : Digits) :
      StandsFor (.string (.of (Sign.written sign ++ digits.text))) (Sign.applied sign digits.value)

end Json

namespace Wire.Codec

open Json (Numeral StandsFor)

theorem integer_some_iff (number : Json.Number) (z : Int) :
    integer? number = some z ↔ StandsFor (.number number) z := by
  constructor
  · intro read
    obtain ⟨negative, whole, rest⟩ := number
    rw [integer?] at read
    split at read
    · cases read
    · rename_i plain
      obtain ⟨written, notMinusZero⟩ := not_or.mp plain
      obtain rfl : rest = [] := Decidable.not_not.mp written
      cases read
      have isInteger : (Numeral.ofWhole negative whole).IsInteger := by
        refine ⟨rfl, rfl, fun same => notMinusZero ?_⟩
        have minusZero := (Numeral.minus_zero_iff rfl rfl).mp same
        rwa [Numeral.ofWhole, Decimal.Digits.value_of_nat] at minusZero
      have stands := StandsFor.numeral _ isInteger
      rw [Numeral.number_of_whole] at stands
      simpa [Numeral.integer, Numeral.ofWhole, Decimal.Digits.value_of_nat] using stands
  · intro stands
    cases stands with
    | numeral numeral isInteger =>
        obtain ⟨fraction, exponent, notMinusZero⟩ := isInteger
        rw [Ne, Numeral.minus_zero_iff fraction exponent] at notMinusZero
        have rest : numeral.number.rest = [] := by
          simp [Numeral.number, fraction, exponent, Numeral.fractionText, Numeral.exponentText]
        exact if_neg (not_or.mpr ⟨not_not_intro rest, notMinusZero⟩)

theorem text_integer_iff (text : Json.Text) (z : Int) :
    text.unicode?.bind Decimal.integer? = some z ↔ StandsFor (.string text) z := by
  constructor
  · intro read
    obtain ⟨chars, whole, integer⟩ := Option.bind_eq_some_iff.mp read
    obtain rfl := (Json.unicode_some_iff text chars).mp whole
    obtain ⟨sign, digits, rfl, rfl⟩ := (Decimal.integer_some_iff chars z).mp integer
    exact .text sign digits
  · intro stands
    cases stands with
    | text sign digits => rw [Json.unicode_of, Option.bind_some, Decimal.integer_signed]

theorem int64_read_iff (value : Json) (n : Int64) :
    int64.read? value = some n ↔ ∃ z, StandsFor value z ∧ Decimal.Fits64 z ∧ n.toInt = z := by
  cases value with
  | number number =>
      simp only [int64, Option.bind_eq_some_iff, integer_some_iff, Decimal.fit64_some_iff]
  | string text =>
      simp only [int64, Option.bind_eq_some_iff, ← text_integer_iff, Decimal.fit64_some_iff]
  | _ =>
      constructor
      · intro read
        cases read
      · rintro ⟨z, stands, -⟩
        cases stands

end Wire.Codec

namespace Wire.Message

open Json (IsDocument)

def placed? (names : List String) : Json → Option (List Json)
  | .object members =>
      if members.any fun member => member.1.unicode?.isNone then none
      else names.mapM (member? members)
  | .array items =>
      if items.length ≤ names.length then
        some (items ++ List.replicate (names.length - items.length) .null)
      else none
  | _ => none

theorem of_json_placed {M : Type} [Message M] (json : Json) :
    (ofJson? json : Option M) = (placed? (names M) json).bind ofValues? := by
  cases json with
  | object members =>
      simp only [ofJson?, placed?]
      split <;> rfl
  | array items =>
      simp only [ofJson?, placed?]
      split <;> rfl
  | _ => rfl

theorem of_document_placed {M : Type} [Message M] {document : Bytes} {json : Json}
    (isDocument : IsDocument document json) :
    (ofDocument? document : Option M) = (placed? (names M) json).bind ofValues? := by
  rw [ofDocument?, Json.parse_of_document isDocument, Option.bind_some, of_json_placed]

/-- The field is given this value by its name or at its place; both are the same but for that, and in
the first it is absent. -/
inductive Gives (name : String) (place : Nat) (value : Json) : Json → Json → Prop where
  | member (before after : List (Json.Text × Json))
      (fresh : ∀ member ∈ before ++ after, member.1 ≠ .of name.toList) :
      Gives name place value (.object (before ++ after))
        (.object (before ++ (.of name.toList, value) :: after))
  | item (before after : List Json) (here : before.length = place) :
      Gives name place value (.array (before ++ .null :: after)) (.array (before ++ value :: after))

section

variable {name : String} {place : Nat} {value : Json}

-- By induction on the names: the value goes to where its own name is, and no other name finds it.
theorem values_given {names : List String} (distinct : names.Nodup)
    (named : names[place]? = some name) {without given : String → Option Json}
    (absent : without name = some .null) (present : given name = some value)
    (others : ∀ other, other ≠ name → given other = without other) :
    names.mapM given = (names.mapM without).map (·.set place value) := by
  induction names generalizing place with
  | nil => cases named
  | cons first names ih =>
      obtain ⟨fresh, distinct⟩ := List.nodup_cons.mp distinct
      cases place with
      | zero =>
          obtain rfl : first = name := Option.some.inj named
          have rest : names.mapM given = names.mapM without := by
            apply mapM_congr_left
            intro other listed
            exact others other fun own => fresh (own ▸ listed)
          rw [List.mapM_cons, List.mapM_cons, absent, present, rest]
          cases names.mapM without <;> rfl
      | succ place =>
          have among : name ∈ names := List.mem_of_getElem? named
          have other : first ≠ name := fun same => fresh (same ▸ among)
          rw [List.mapM_cons, List.mapM_cons, others first other, ih distinct named]
          cases without first <;> cases names.mapM without <;> rfl

theorem member_own {before after : List (Json.Text × Json)}
    (fresh : ∀ member ∈ before ++ after, member.1 ≠ .of name.toList) (field : Option Json) :
    member? (before ++ ((field.map fun value => (Json.Text.of name.toList, value)).toList ++ after))
      name = some (field.getD .null) :=
  member_between before after name field
    (fun member listed => fresh member (List.mem_append_left after listed))
    (fun member listed => fresh member (List.mem_append_right before listed))

theorem member_other (before after : List (Json.Text × Json)) {other : String}
    (differs : other ≠ name) :
    member? (before ++ (.of name.toList, value) :: after) other = member? (before ++ after) other := by
  have skipped : ¬Json.Text.of name.toList = Json.Text.of other.toList :=
    fun same => differs (text_of_injective other name same.symm)
  simp only [member?, List.filter_append, List.filter_cons, skipped, decide_false, Bool.false_eq_true,
    if_false]

variable {names : List String} {without given : Json} (gives : Gives name place value without given)

include gives

theorem placed_given (distinct : names.Nodup) (named : names[place]? = some name) :
    placed? names given = (placed? names without).map (·.set place value) := by
  cases gives with
  | member before after fresh =>
      have placed := values_given distinct named (member_own fresh none)
        (member_own fresh (some value)) fun other => member_other before after
      simp only [Option.map_none, Option.toList_none, List.nil_append, Option.map_some,
        Option.toList_some, List.singleton_append] at placed
      have texts : (before ++ (.of name.toList, value) :: after).any
            (fun member => member.1.unicode?.isNone) =
          (before ++ after).any fun member => member.1.unicode?.isNone := by
        simp [Json.unicode_of]
      simp only [placed?, texts, placed]
      split <;> rfl
  | item before after here =>
      simp only [placed?, List.length_append, List.length_cons]
      split
      · simp [← here, List.set_append_right]
      · rfl

theorem placed_absent (named : names[place]? = some name) {values : List Json}
    (placed : placed? names without = some values) :
    values.length = names.length ∧ values[place]? = some .null := by
  cases gives with
  | member before after fresh =>
      simp only [placed?] at placed
      split at placed
      · cases placed
      · have all := (mapM_some_iff _ _ _).mp placed
        have own := member_own fresh none
        rw [Option.map_none, Option.toList_none, List.nil_append] at own
        have lengths := congrArg List.length all
        have here := congrArg (·[place]?) all
        simp only [List.length_map] at lengths
        simp only [List.getElem?_map, named, Option.map_some, own] at here
        obtain ⟨value, found, same⟩ := Option.map_eq_some_iff.mp here.symm
        exact ⟨lengths.symm, found.trans same⟩
  | item before after here =>
      simp only [placed?] at placed
      split at placed
      · rename_i fits
        cases placed
        constructor
        · rw [List.length_append, List.length_replicate]
          omega
        · simp [← here]
      · cases placed

end

theorem placed_empty (names : List String) :
    placed? names (.object []) = some (List.replicate names.length .null) := by
  apply (mapM_some_iff (member? []) names _).mpr
  rw [List.map_replicate]
  exact List.map_const'

theorem placed_nulls {names : List String} {count : Nat} (fits : count ≤ names.length) :
    placed? names (.array (List.replicate count .null)) =
      some (List.replicate names.length .null) := by
  simp [placed?, fits]

end Wire.Message

namespace Wire

open Codec (int64)
open Decimal (Fits64)
open Json (IsDocument StandsFor)
open Message (Gives)

inductive IntegerField : List (String × Kind) → Type where
  | here (name : String) (fields : List (String × Kind)) : IntegerField ((name, .int64) :: fields)
  | there {field : String × Kind} {fields : List (String × Kind)} (rest : IntegerField fields) :
      IntegerField (field :: fields)

namespace IntegerField

variable {fields : List (String × Kind)}

def name : {fields : List (String × Kind)} → IntegerField fields → String
  | _, here name _ => name
  | _, there rest => rest.name

def place : {fields : List (String × Kind)} → IntegerField fields → Nat
  | _, here .. => 0
  | _, there rest => rest.place + 1

def put (n : Option Int64) : {fields : List (String × Kind)} → IntegerField fields → Row fields →
    Row fields
  | _, here .., (_, rest) => (n, rest)
  | _, there field, (first, rest) => (first, field.put n rest)

theorem named (field : IntegerField fields) :
    (fields.map Prod.fst)[field.place]? = some field.name := by
  induction field with
  | here name fields => rfl
  | there rest ih => exact ih

theorem place_lt (field : IntegerField fields) : field.place < fields.length := by
  have listed := List.getElem?_eq_some_iff.mp field.named
  obtain ⟨within, -⟩ := listed
  rwa [List.length_map] at within

theorem of_values_set (field : IntegerField fields) (values : List Json) (value : Json)
    (absent : values[field.place]? = some .null) :
    Row.ofValues? fields (values.set field.place value) =
      (int64.field? value).bind fun n => (Row.ofValues? fields values).map (field.put n) := by
  induction field generalizing values with
  | here name fields =>
      cases values with
      | nil => cases absent
      | cons first values =>
          obtain rfl : first = .null := Option.some.inj absent
          simp only [place, List.set_cons_zero, Row.ofValues?, Kind.codec, put]
          cases int64.field? value <;> cases Row.ofValues? fields values <;> rfl
  | @there field fields rest ih =>
      cases values with
      | nil => cases absent
      | cons first values =>
          simp only [place, List.set_cons_succ, Row.ofValues?, ih values absent]
          cases field.2.codec.field? first <;> cases int64.field? value <;>
            cases Row.ofValues? fields values <;> rfl

end IntegerField

namespace Row

def blank : (fields : List (String × Kind)) → Row fields
  | [] => ()
  | _ :: fields => (none, blank fields)

theorem of_nulls (fields : List (String × Kind)) :
    ofValues? fields (List.replicate fields.length .null) = some (blank fields) := by
  induction fields with
  | nil => rfl
  | cons field fields ih =>
      simp only [List.length_cons, List.replicate_succ, ofValues?, ih]
      rfl

end Row

namespace Message

/-- Of a document with a value that is not null for the field, what the field and the message are. -/
structure ReadsIntegers (M : Type) [Message M] (name : String) (place : Nat) (empty : M)
    (put : Int64 → M → M) : Prop where
  alone {document : Bytes} {value : Json} (present : value ≠ .null)
    (isDocument : IsDocument document (.object [(.of name.toList, value)]) ∨
      IsDocument document (.array (List.replicate place .null ++ [value]))) (message : M) :
    ofDocument? document = some message ↔
      ∃ z n, StandsFor value z ∧ Fits64 z ∧ n.toInt = z ∧ message = put n empty
  read {document : Bytes} {value without given : Json} (isDocument : IsDocument document given)
    (gives : Gives name place value without given) (present : value ≠ .null) (message : M) :
    ofDocument? document = some message ↔
      ∃ rest z n, ofJson? without = some rest ∧ StandsFor value z ∧ Fits64 z ∧ n.toInt = z ∧
        message = put n rest
  refused {document : Bytes} {value without given : Json} (isDocument : IsDocument document given)
    (gives : Gives name place value without given) (present : value ≠ .null)
    (unfit : ∀ z, StandsFor value z → ¬Fits64 z) :
    (ofDocument? document : Option M) = none

section

variable {M : Type} [Message M]

def put (field : IntegerField (fields M)) (n : Option Int64) (message : M) : M :=
  ofRow (field.put n (row message))

theorem of_values_set (field : IntegerField (fields M)) (values : List Json) (value : Json)
    (absent : values[field.place]? = some .null) :
    (ofValues? (values.set field.place value) : Option M) =
      (int64.field? value).bind fun n => (ofValues? values).map (put field n) := by
  simp only [ofValues?, field.of_values_set values value absent]
  cases int64.field? value with
  | none => rfl
  | some n =>
      cases Row.ofValues? (fields M) values with
      | none => rfl
      | some values => simp [put, row_of]

theorem of_document_given (field : IntegerField (fields M)) {document : Bytes}
    {value without given : Json} (isDocument : IsDocument document given)
    (gives : Gives field.name field.place value without given) (present : value ≠ .null) :
    (ofDocument? document : Option M) =
      (int64.read? value).bind fun n => (ofJson? without).map (put field (some n)) := by
  have named : (names M)[field.place]? = some field.name := field.named
  rw [of_document_placed isDocument, of_json_placed, placed_given gives names_nodup named]
  cases placed : placed? (names M) without with
  | none => cases int64.read? value <;> rfl
  | some values =>
      obtain ⟨-, absent⟩ := placed_absent gives named placed
      rw [Option.map_some, Option.bind_some, Option.bind_some, of_values_set field values value absent,
        Codec.field_present int64 present]
      cases int64.read? value <;> rfl

theorem of_document_given_iff (field : IntegerField (fields M)) {document : Bytes}
    {value without given : Json} (isDocument : IsDocument document given)
    (gives : Gives field.name field.place value without given) (present : value ≠ .null)
    (message : M) :
    ofDocument? document = some message ↔
      ∃ rest z n, ofJson? without = some rest ∧ StandsFor value z ∧ Fits64 z ∧ n.toInt = z ∧
        message = put field (some n) rest := by
  rw [of_document_given field isDocument gives present]
  simp only [Option.bind_eq_some_iff, Option.map_eq_some_iff, Codec.int64_read_iff]
  constructor
  · rintro ⟨n, ⟨z, stands, fits, same⟩, rest, others, rfl⟩
    exact ⟨rest, z, n, others, stands, fits, same, rfl⟩
  · rintro ⟨rest, z, n, others, stands, fits, same, rfl⟩
    exact ⟨n, ⟨z, stands, fits, same⟩, rest, others, rfl⟩

def empty : M :=
  ofRow (Row.blank (fields M))

theorem of_placed_nulls {json : Json}
    (placed : placed? (names M) json = some (List.replicate (names M).length .null)) :
    ofJson? json = some (empty : M) := by
  rw [of_json_placed, placed, Option.bind_some, ofValues?, names, List.length_map, Row.of_nulls]
  rfl

theorem of_document_alone_iff (field : IntegerField (fields M)) {document : Bytes} {value : Json}
    (present : value ≠ .null)
    (isDocument : IsDocument document (.object [(.of field.name.toList, value)]) ∨
      IsDocument document (.array (List.replicate field.place .null ++ [value]))) (message : M) :
    ofDocument? document = some message ↔
      ∃ z n, StandsFor value z ∧ Fits64 z ∧ n.toInt = z ∧ message = put field (some n) empty := by
  have within : field.place + 1 ≤ (names M).length := by
    rw [names, List.length_map]
    exact field.place_lt
  have given : ∃ without given, IsDocument document given ∧
      Gives field.name field.place value without given ∧ ofJson? without = some (empty : M) := by
    cases isDocument with
    | inl object =>
        exact ⟨_, _, object, .member [] [] (by simp), of_placed_nulls (placed_empty _)⟩
    | inr array =>
        have nulls := of_placed_nulls (M := M) (placed_nulls within)
        rw [List.replicate_succ'] at nulls
        exact ⟨_, _, array, .item _ [] List.length_replicate, nulls⟩
  obtain ⟨without, given, isDocument, gives, nothing⟩ := given
  rw [of_document_given_iff field isDocument gives present, nothing]
  constructor
  · rintro ⟨rest, z, n, same, read⟩
    cases same
    exact ⟨z, n, read⟩
  · rintro ⟨z, n, read⟩
    exact ⟨empty, z, n, rfl, read⟩

theorem reads_integers (field : IntegerField (fields M)) :
    ReadsIntegers M field.name field.place empty fun n => put field (some n) where
  alone present isDocument message := of_document_alone_iff field present isDocument message
  read isDocument gives present message := of_document_given_iff field isDocument gives present message
  refused isDocument gives present unfit := by
    rw [of_document_given field isDocument gives present]
    apply Option.bind_eq_none_iff.mpr
    intro n read
    obtain ⟨z, stands, fits, -⟩ := (Codec.int64_read_iff _ n).mp read
    exact absurd fits (unfit z stands)

end

theorem checksums_read :
    ReadsIntegers (Request .encrypt) "plaintextCrc32c" 1 ⟨none, none, none, none⟩
      (fun n request => { request with payloadChecksum := some n }) ∧
    ReadsIntegers (Request .encrypt) "additionalAuthenticatedDataCrc32c" 3 ⟨none, none, none, none⟩
      (fun n request => { request with associatedDataChecksum := some n }) ∧
    ReadsIntegers (Request .decrypt) "ciphertextCrc32c" 1 ⟨none, none, none, none⟩
      (fun n request => { request with payloadChecksum := some n }) ∧
    ReadsIntegers (Request .decrypt) "additionalAuthenticatedDataCrc32c" 3 ⟨none, none, none, none⟩
      (fun n request => { request with associatedDataChecksum := some n }) ∧
    ReadsIntegers EncryptResponse "ciphertextCrc32c" 2 ⟨none, none, none, none, none, none⟩
      (fun n response => { response with ciphertextChecksum := some n }) ∧
    ReadsIntegers DecryptResponse "plaintextCrc32c" 1 ⟨none, none, none, none⟩
      (fun n response => { response with plaintextChecksum := some n }) :=
  ⟨reads_integers (M := Request .encrypt) (.there (.here _ _)),
    reads_integers (M := Request .encrypt) (.there (.there (.there (.here _ _)))),
    reads_integers (M := Request .decrypt) (.there (.here _ _)),
    reads_integers (M := Request .decrypt) (.there (.there (.there (.here _ _)))),
    reads_integers (M := EncryptResponse) (.there (.there (.here _ _))),
    reads_integers (M := DecryptResponse) (.there (.here _ _))⟩

theorem checksums_at_the_limits :
    let members (value : Json) : List (Json.Text × Json) :=
      [(.of "usedPrimary".toList, .bool true), (.of "plaintextCrc32c".toList, value)]
    let read (document : Bytes) : Option DecryptResponse := ofDocument? document
    let beside (value : Json) : Option DecryptResponse := read (Json.document (.object (members value)))
    beside (.number ⟨false, 9223372036854775807, []⟩) =
        some ⟨none, some 9223372036854775807, some true, none⟩ ∧
      beside (.number ⟨false, 9223372036854775808, []⟩) = none ∧
      beside (.number ⟨true, 0, []⟩) = none ∧
      read (Json.document (.object [(.of "plaintextCrc32c".toList, .string (.of "-007".toList))])) =
        some ⟨none, some (-7), none, none⟩ ∧
      read (Utf8.encode "[null, \"+5\"]".toList) = some ⟨none, some 5, none, none⟩ := by
  intro members read beside
  obtain ⟨-, -, -, -, -, plaintext⟩ := checksums_read
  have number (negative : Bool) (whole : Nat) :
      IsDocument (Json.document (.object (members (.number ⟨negative, whole, []⟩))))
        (.object (members (.number ⟨negative, whole, []⟩))) := by
    apply Json.spelled_document (Json.Reader.object_writes_itself _ _)
    simp [members, Json.Reader.bool_writes_itself, Json.Numeral.whole_writes_itself]
  have gives (value : Json) : Gives "plaintextCrc32c" 1 value
      (.object [(.of "usedPrimary".toList, .bool true)]) (.object (members value)) :=
    .member [_] [] (List.forall_mem_singleton.mpr (by decide))
  refine ⟨?_, ?_, ?_, ?_, ?_⟩
  · have stands := (Codec.integer_some_iff ⟨false, 9223372036854775807, []⟩ _).mp rfl
    exact (plaintext.read (number _ _) (gives _) Json.noConfusion _).mpr
      ⟨⟨none, none, some true, none⟩, _, 9223372036854775807, by decide +kernel, stands, by decide,
        rfl, rfl⟩
  · refine plaintext.refused (number _ _) (gives _) Json.noConfusion ?_
    intro z stands
    cases (Codec.integer_some_iff _ z).mpr stands
    decide
  · refine plaintext.refused (number _ _) (gives _) Json.noConfusion ?_
    intro z stands
    cases (Codec.integer_some_iff _ z).mpr stands
  · have stands := (Codec.text_integer_iff (.of "-007".toList) (-7)).mp (by decide)
    have written := Json.Reader.string_writes_itself (.of "-007".toList)
    have isObject := Json.spelled_document (Json.Reader.object_writes_itself
      [(.of "plaintextCrc32c".toList, _)] (List.forall_mem_singleton.mpr written))
    exact (plaintext.alone Json.noConfusion (.inl isObject) _).mpr ⟨_, -7, stands, by decide, rfl, rfl⟩
  · have stands := (Codec.text_integer_iff (.of "+5".toList) 5).mp (by decide)
    have blank : Json.Reader.Blank [some ' '] := List.forall_mem_singleton.mpr rfl
    have spelled := Json.Reader.Spells.array (.more Json.Reader.blank_nil .null Json.Reader.blank_nil
      (.last blank (Json.Reader.string_writes_itself (.of "+5".toList)) Json.Reader.blank_nil))
    have isArray : IsDocument (Utf8.encode "[null, \"+5\"]".toList)
        (.array [.null, .string (.of "+5".toList)]) := Json.spelled_document spelled
    exact (plaintext.alone Json.noConfusion (.inr isArray) _).mpr ⟨_, 5, stands, by decide, rfl, rfl⟩

end Message

end Wire

end KeyCustody
