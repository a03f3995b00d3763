import Mathlib.Data.List.Forall2
import Mathlib.Logic.Relation
import KeyCustody.Proofs.IntegerFields

set_option autoImplicit false

namespace KeyCustody.Wire.Message

open Json (IsDocument)

def named (members : List (String × Json)) : List (Json.Text × Json) :=
  members.map fun member => (.of member.1.toList, member.2)

def given (members : List (String × Json)) (name : String) : List Json :=
  (members.filter (·.1 = name)).map Prod.snd

def only? : List Json → Option Json
  | [] => some .null
  | [value] => some value
  | _ => none

/-- Changes of the members that the reader of these names does not see. -/
inductive Immaterial (names : List String) : List (String × Json) → List (String × Json) → Prop where
  | reordered {members others : List (String × Json)} (same : members.Perm others) :
      Immaterial names members others
  | unknown (before extra after : List (String × Json)) (unknown : ∀ member ∈ extra, member.1 ∉ names) :
      Immaterial names (before ++ after) (before ++ (extra ++ after))
  | absent (before after : List (String × Json)) (name : String)
      (fresh : ∀ member ∈ before ++ after, member.1 ≠ name) :
      Immaterial names (before ++ after) (before ++ (name, .null) :: after)

theorem only_none {values : List Json} (several : 1 < values.length) : only? values = none :=
  match values, several with
  | _ :: _ :: _, _ => rfl

theorem only_perm {values others : List Json} (same : values.Perm others) :
    only? values = only? others := by
  match values, others, same with
  | [], others, same => rw [same.nil_eq]
  | [value], others, same => rw [List.perm_singleton.mp same.symm]
  | _ :: _ :: rest, others, same =>
      have several : 1 < others.length := by
        rw [← same.length_eq, List.length_cons, List.length_cons]
        omega
      rw [only_none several]
      rfl

theorem given_append (members others : List (String × Json)) (name : String) :
    given (members ++ others) name = given members name ++ given others name := by
  rw [given, List.filter_append, List.map_append, given, given]

theorem given_of_fresh {members : List (String × Json)} {name : String}
    (fresh : ∀ member ∈ members, member.1 ≠ name) : given members name = [] := by
  have none : members.filter (·.1 = name) = [] := by
    apply List.filter_eq_nil_iff.mpr
    intro member listed
    simpa using fresh member listed
  rw [given, none, List.map_nil]

theorem given_cons_own (name : String) (value : Json) (members : List (String × Json)) :
    given ((name, value) :: members) name = value :: given members name := by
  simp [given]

theorem given_cons_other {name other : String} (differs : other ≠ name) (value : Json)
    (members : List (String × Json)) : given ((other, value) :: members) name = given members name := by
  simp [given, differs]

theorem given_immaterial {names : List String} {members others : List (String × Json)}
    (change : Immaterial names members others) {name : String} (listed : name ∈ names) :
    only? (given members name) = only? (given others name) := by
  cases change with
  | reordered same => exact only_perm ((same.filter _).map _)
  | unknown before extra after unknown =>
      have passed : given extra name = [] :=
        given_of_fresh fun member among own => unknown member among (own ▸ listed)
      rw [given_append, given_append, given_append, passed, List.nil_append]
  | absent before after absent fresh =>
      by_cases own : absent = name
      · subst own
        have none := given_of_fresh fresh
        rw [given_append] at none
        obtain ⟨front, back⟩ := List.append_eq_nil_iff.mp none
        rw [given_append, given_append, given_cons_own, front, back]
        rfl
      · rw [given_append, given_append, given_cons_other own]

theorem member_named (members : List (String × Json)) (name : String) :
    member? (named members) name = only? (given members name) := by
  have texts : (named members).filter (·.1 = .of name.toList) =
      named (members.filter (·.1 = name)) := by
    rw [named, List.filter_map]
    congr 2
    funext member
    apply decide_eq_decide.mpr
    exact ⟨text_of_injective member.1 name, fun same => same ▸ rfl⟩
  rw [member?, texts, given]
  cases members.filter (·.1 = name) with
  | nil => rfl
  | cons first others =>
      cases others with
      | nil => rfl
      | cons second others => rfl

theorem placed_members (names : List String) (members : List (String × Json)) :
    placed? names (.object (named members)) = names.mapM (member? (named members)) := by
  have texts : ((named members).any fun member => member.1.unicode?.isNone) = false := by
    simp [named, Json.unicode_of]
  simp only [placed?, texts, Bool.false_eq_true, if_false]

theorem placed_named (names : List String) (members : List (String × Json)) :
    placed? names (.object (named members)) = names.mapM fun name => only? (given members name) := by
  rw [placed_members]
  exact mapM_congr_left fun name _ => member_named members name

theorem placed_immaterial {names : List String} {members others : List (String × Json)}
    (change : Immaterial names members others) :
    placed? names (.object (named members)) = placed? names (.object (named others)) := by
  rw [placed_named, placed_named]
  exact mapM_congr_left fun name listed => given_immaterial change listed

theorem placed_alike {names : List String} {members others : List (String × Json)}
    (alike : Relation.EqvGen (Immaterial names) members others) :
    placed? names (.object (named members)) = placed? names (.object (named others)) := by
  induction alike with
  | rel _ _ change => exact placed_immaterial change
  | refl _ => rfl
  | symm _ _ _ ih => exact ih.symm
  | trans _ _ _ _ _ first second => exact first.trans second

theorem placed_repeated {names : List String} {name : String} (known : name ∈ names)
    (before between after : List (String × Json)) (first second : Json) :
    placed? names (.object (named
      (before ++ (name, first) :: (between ++ (name, second) :: after)))) = none := by
  rw [placed_named]
  apply mapM_none known
  apply only_none
  simp only [given_append, given_cons_own, List.length_append, List.length_cons]
  omega

structure ReadsKnownMembers (M : Type) [Message M] : Prop where
  alike {members others : List (String × Json)} {document other : Bytes}
    (isDocument : IsDocument document (.object (named members)))
    (isOther : IsDocument other (.object (named others)))
    (same : Relation.EqvGen (Immaterial (names M)) members others) :
    (ofDocument? document : Option M) = ofDocument? other
  repeated {before between after : List (String × Json)} {name : String} {first second : Json}
    {document : Bytes} (known : name ∈ names M)
    (isDocument : IsDocument document (.object (named
      (before ++ (name, first) :: (between ++ (name, second) :: after))))) :
    (ofDocument? document : Option M) = none

theorem reads_known_members (M : Type) [Message M] : ReadsKnownMembers M where
  alike isDocument isOther same := by
    rw [of_document_placed isDocument, of_document_placed isOther, placed_alike same]
  repeated known isDocument := by
    rw [of_document_placed isDocument, placed_repeated known, Option.bind_none]

theorem only_known_members_read :
    ReadsKnownMembers (Request .encrypt) ∧ ReadsKnownMembers (Request .decrypt) ∧
      ReadsKnownMembers EncryptResponse ∧ ReadsKnownMembers DecryptResponse :=
  ⟨reads_known_members _, reads_known_members _, reads_known_members _, reads_known_members _⟩

theorem reordered_members_read_alike :
    let flag : String × Json := ("usedPrimary", .bool true)
    let checksum : String × Json := ("plaintextCrc32c", .string (.of "5".toList))
    let unknown : List (String × Json) := [("x", .bool false), ("x", .null)]
    let read (members : List (String × Json)) : Option DecryptResponse :=
      ofDocument? (Json.document (.object (named members)))
    read [flag, checksum] = some ⟨none, some 5, some true, none⟩ ∧
      read [flag, checksum] = read (checksum :: unknown ++ [("plaintext", .null), flag]) ∧
      read [flag, checksum, flag] = none := by
  intro flag checksum unknown read
  obtain ⟨-, -, -, reads⟩ := only_known_members_read
  have isDocument {members : List (String × Json)}
      (values : ∀ member ∈ members, member.2 = .null ∨ member.2 = .bool true ∨
        member.2 = .bool false ∨ member.2 = .string (.of "5".toList)) :
      IsDocument (Json.document (.object (named members))) (.object (named members)) := by
    apply Json.spelled_document (Json.Reader.object_writes_itself _ _)
    rw [named, List.forall_mem_map]
    intro member listed
    obtain null | isTrue | isFalse | text := values member listed
    · exact null ▸ Json.Reader.null_writes_itself
    · exact isTrue ▸ Json.Reader.bool_writes_itself true
    · exact isFalse ▸ Json.Reader.bool_writes_itself false
    · exact text ▸ Json.Reader.string_writes_itself _
  have alike : Relation.EqvGen (Immaterial (names DecryptResponse)) [flag, checksum]
      (checksum :: unknown ++ [("plaintext", .null), flag]) :=
    .trans _ _ _ (.rel _ _ (.reordered (.swap checksum flag []))) <|
      .trans _ _ _ (.rel _ _ (.unknown [checksum] unknown [flag] (by decide))) <|
      .rel _ _ (.absent (checksum :: unknown) [flag] "plaintext" (by decide))
  have twice : IsDocument (Json.document (.object (named [flag, checksum, flag])))
      (.object (named ([] ++ flag :: ([checksum] ++ [flag])))) :=
    isDocument (by simp [flag, checksum])
  refine ⟨by decide +kernel, ?_, reads.repeated (by decide) twice⟩
  exact reads.alike (isDocument (by simp [flag, checksum]))
    (isDocument (by simp [flag, checksum, unknown])) alike

theorem present_zip {names : List String} {items : List Json} (fits : items.length ≤ names.length) :
    present (names.zip (items.map some ++ List.replicate (names.length - items.length) none)) =
      named (names.zip items) := by
  induction names generalizing items with
  | nil => rfl
  | cons name names ih =>
      cases items with
      | nil =>
          have rest := @ih [] (Nat.zero_le _)
          simp only [List.map_nil, List.nil_append, List.length_nil, Nat.sub_zero, List.zip_nil_right]
            at rest
          simp only [List.map_nil, List.nil_append, List.length_nil, Nat.sub_zero, List.length_cons,
            List.replicate_succ, List.zip_cons_cons, present_cons, rest]
          rfl
      | cons item items =>
          simp only [List.length_cons, Nat.add_le_add_iff_right] at fits
          simp only [List.map_cons, List.cons_append, List.length_cons, Nat.add_sub_add_right,
            List.zip_cons_cons, present_cons, ih fits]
          rfl

theorem placed_forms {names : List String} (distinct : names.Nodup) (items : List Json) :
    placed? names (.array items) =
      if items.length ≤ names.length then placed? names (.object (named (names.zip items)))
      else none := by
  by_cases fits : items.length ≤ names.length
  · have all : names.length =
        (items.map some ++ List.replicate (names.length - items.length) none).length := by
      simp only [List.length_append, List.length_map, List.length_replicate]
      omega
    have found := members_by_name names _ all distinct [] (by simp)
    rw [List.nil_append, present_zip fits] at found
    rw [if_pos fits, placed_members, found]
    simp [placed?, fits, Function.comp_def]
  · simp only [placed?, if_neg fits]

theorem absent_of_null {α : Type} {codec : Codec α} {value : Json} {field : Option α}
    (read : codec.field? value = some field) (null : value = .null) : field.map codec.write = none := by
  subst null
  cases read
  rfl

theorem absent_in_place {fields : List (String × Kind)} {values : List Json} {row : Row fields}
    (read : Row.ofValues? fields values = some row) :
    List.Forall₂ (fun field value => value = .null → field = none) (Row.shown fields row) values := by
  induction fields generalizing values with
  | nil =>
      cases values with
      | nil => exact .nil
      | cons value values => cases read
  | cons field fields ih =>
      cases values with
      | nil => cases read
      | cons value values =>
          simp only [Row.ofValues?, Option.bind_eq_bind, Option.bind_eq_some_iff, Option.some.injEq]
            at read
          obtain ⟨first, here, rest, others, rfl⟩ := read
          exact .cons (absent_of_null here) (ih others)

theorem absent_of_nulls {fields : List (Option Json)} {values : List Json}
    (each : List.Forall₂ (fun field value => value = .null → field = none) fields values)
    (nulls : ∀ value ∈ values, value = .null) : ∀ field ∈ fields, field = none := by
  induction each with
  | nil => simp
  | cons first _ ih =>
      obtain ⟨null, nulls⟩ := List.forall_mem_cons.mp nulls
      exact List.forall_mem_cons.mpr ⟨first null, ih nulls⟩

structure FormsAgree (M : Type) [Message M] : Prop where
  same {items : List Json} {array object : Bytes} (isArray : IsDocument array (.array items))
    (isObject : IsDocument object (.object (named ((names M).zip items)))) :
    (ofDocument? array : Option M) =
      if items.length ≤ (names M).length then ofDocument? object else none
  rest {items : List Json} {array : Bytes} (isArray : IsDocument array (.array items)) {message : M}
    (read : ofDocument? array = some message) :
    ∀ field ∈ (shown message).drop items.length, field = none

theorem forms_agree (M : Type) [Message M] : FormsAgree M where
  same isArray isObject := by
    rw [of_document_placed isArray, of_document_placed isObject, placed_forms names_nodup]
    split <;> rfl
  rest {items} {array} isArray {message} read := by
    rw [of_document_placed isArray] at read
    obtain ⟨values, placed, read⟩ := Option.bind_eq_some_iff.mp read
    obtain ⟨row, inPlace, rfl⟩ := Option.map_eq_some_iff.mp read
    simp only [placed?, Option.ite_none_right_eq_some, Option.some.injEq] at placed
    obtain ⟨-, rfl⟩ := placed
    have behind := List.forall₂_drop_append _ _ _ (absent_in_place inPlace)
    rw [shown, row_of]
    exact absent_of_nulls behind fun value listed => List.eq_of_mem_replicate listed

theorem array_and_object_agree :
    FormsAgree (Request .encrypt) ∧ FormsAgree (Request .decrypt) ∧ FormsAgree EncryptResponse ∧
      FormsAgree DecryptResponse :=
  ⟨forms_agree _, forms_agree _, forms_agree _, forms_agree _⟩

theorem array_read_as_object :
    let items : List Json := [.string (.of "AQI=".toList), .string (.of "5".toList)]
    let message : DecryptResponse := ⟨some [1, 2], some 5, none, none⟩
    let array (items : List Json) : Option DecryptResponse :=
      ofDocument? (Json.document (.array items))
    let object (items : List Json) : Option DecryptResponse :=
      ofDocument? (Json.document (.object (named ((names DecryptResponse).zip items))))
    array items = some message ∧ array items = object items ∧
      (∀ field ∈ (shown message).drop 2, field = none) ∧
      array (List.replicate 5 .null) = none := by
  intro items message array object
  obtain ⟨-, -, -, agree⟩ := array_and_object_agree
  have isArray {items : List Json} (each : ∀ item ∈ items, Json.Reader.WritesItself item) :
      IsDocument (Json.document (.array items)) (.array items) :=
    Json.spelled_document (Json.Reader.array_writes_itself items each)
  have isObject {items : List Json} (each : ∀ item ∈ items, Json.Reader.WritesItself item) :
      IsDocument (Json.document (.object (named ((names DecryptResponse).zip items))))
        (.object (named ((names DecryptResponse).zip items))) := by
    apply Json.spelled_document (Json.Reader.object_writes_itself _ _)
    rw [named, List.forall_mem_map]
    exact fun member listed => each member.2 (List.of_mem_zip listed).2
  have texts : ∀ item ∈ items, Json.Reader.WritesItself item := by
    rw [List.forall_mem_cons, List.forall_mem_singleton]
    exact ⟨Json.Reader.string_writes_itself _, Json.Reader.string_writes_itself _⟩
  have nulls : ∀ item ∈ List.replicate 5 Json.null, Json.Reader.WritesItself item :=
    fun item listed => List.eq_of_mem_replicate listed ▸ Json.Reader.null_writes_itself
  have read : array items = some message := by decide +kernel
  exact ⟨read, agree.same (isArray texts) (isObject texts), agree.rest (isArray texts) read,
    agree.same (isArray nulls) (isObject nulls)⟩

end KeyCustody.Wire.Message
