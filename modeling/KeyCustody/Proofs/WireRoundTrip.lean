import KeyCustody.Wire.Messages
import KeyCustody.Proofs.FieldCodec

set_option autoImplicit false

namespace KeyCustody.Wire

open Codec (blob int64 text flag)

def present (fields : List (String × Option Json)) : List (Json.Text × Json) :=
  fields.filterMap fun field => field.2.map fun value => (.of field.1.toList, value)

def Written (fields : List (Option Json)) : Prop :=
  ∀ value, some value ∈ fields → value ≠ .null ∧ Json.Reader.WritesItself value

theorem write_field_eq {α : Type} (codec : Codec α) (field : Option α) :
    codec.writeField field = (field.map codec.write).getD .null := by
  cases field <;> rfl

theorem text_of_injective (a b : String) (same : Json.Text.of a.toList = .of b.toList) : a = b := by
  have chars := congrArg Json.Text.unicode? same
  rw [Json.unicode_of, Json.unicode_of] at chars
  exact String.toList_inj.mp (Option.some.inj chars)

theorem present_cons (name : String) (field : Option Json) (rest : List (String × Option Json)) :
    present ((name, field) :: rest) =
      (field.map fun value => (Json.Text.of name.toList, value)).toList ++ present rest := by
  cases field <;> simp [present]

theorem key_of_present (fields : List (String × Option Json)) (member : Json.Text × Json)
    (listed : member ∈ present fields) :
    ∃ name ∈ fields.map Prod.fst, member.1 = .of name.toList := by
  obtain ⟨⟨name, field⟩, among, shown⟩ := List.mem_filterMap.mp listed
  obtain ⟨value, -, rfl⟩ := Option.map_eq_some_iff.mp shown
  exact ⟨name, List.mem_map_of_mem among, rfl⟩

theorem Kind.faithful (kind : Kind) : kind.codec.Faithful := by
  cases kind with
  | blob => exact Codec.blob_faithful
  | int64 => exact Codec.int64_faithful
  | text => exact Codec.text_faithful
  | flag => exact Codec.flag_faithful

namespace Row

def shown : (fields : List (String × Kind)) → Row fields → List (Option Json)
  | [], _ => []
  | (_, kind) :: fields, (first, rest) => first.map kind.codec.write :: shown fields rest

theorem length_shown (fields : List (String × Kind)) (row : Row fields) :
    (shown fields row).length = fields.length := by
  induction fields with
  | nil => rfl
  | cons field fields ih =>
      obtain ⟨first, rest⟩ := row
      exact congrArg (· + 1) (ih rest)

theorem values_eq (fields : List (String × Kind)) (row : Row fields) :
    values fields row = (shown fields row).map (·.getD .null) := by
  induction fields with
  | nil => rfl
  | cons field fields ih =>
      obtain ⟨first, rest⟩ := row
      rw [values, shown, List.map_cons, ih rest, write_field_eq]

theorem written_shown (fields : List (String × Kind)) (row : Row fields) :
    Written (shown fields row) := by
  induction fields with
  | nil =>
      intro value member
      cases member
  | cons field fields ih =>
      obtain ⟨first, rest⟩ := row
      intro value member
      rcases List.mem_cons.mp member with here | later
      · obtain ⟨shown, -, rfl⟩ := Option.map_eq_some_iff.mp here.symm
        exact ⟨field.2.faithful.present shown, field.2.faithful.writesItself shown⟩
      · exact ih rest value later

theorem of_values (fields : List (String × Kind)) (row : Row fields) :
    ofValues? fields (values fields row) = some row := by
  induction fields with
  | nil => rfl
  | cons field fields ih =>
      obtain ⟨first, rest⟩ := row
      simp only [values, ofValues?, Codec.field_write_field _ field.2.faithful, ih rest,
        Option.bind_eq_bind, Option.bind_some]

end Row

namespace Message

theorem members_named (members : List (Json.Text × Json)) (name : String)
    (others : ∀ member ∈ members, member.1 ≠ .of name.toList) :
    members.filter (·.1 = .of name.toList) = [] := by
  apply List.filter_eq_nil_iff.mpr
  intro member listed
  simpa using others member listed

theorem member_between (before after : List (Json.Text × Json)) (name : String)
    (field : Option Json) (first : ∀ member ∈ before, member.1 ≠ .of name.toList)
    (last : ∀ member ∈ after, member.1 ≠ .of name.toList) :
    member? (before ++ ((field.map fun value => (Json.Text.of name.toList, value)).toList ++ after))
      name = some (field.getD .null) := by
  rw [member?, List.filter_append, List.filter_append, members_named before name first,
    members_named after name last]
  cases field <;> simp

-- The members that come before those of the fields under consideration may be any that have other
-- names, so that the induction can move a field over to them.
theorem members_by_name (names : List String) (fields : List (Option Json))
    (length : names.length = fields.length) (distinct : names.Nodup)
    (before : List (Json.Text × Json))
    (others : ∀ member ∈ before, ∀ name ∈ names, member.1 ≠ .of name.toList) :
    names.mapM (member? (before ++ present (names.zip fields))) =
      some (fields.map (·.getD .null)) := by
  induction names generalizing fields before with
  | nil =>
      rw [List.length_eq_zero_iff.mp length.symm]
      rfl
  | cons name names ih =>
      cases fields with
      | nil => simp at length
      | cons field fields =>
          obtain ⟨fresh, distinct⟩ := List.nodup_cons.mp distinct
          simp only [List.length_cons, Nat.add_right_cancel_iff] at length
          have first : ∀ member ∈ before, member.1 ≠ .of name.toList :=
            fun member listed => others member listed name List.mem_cons_self
          have last : ∀ member ∈ present (names.zip fields), member.1 ≠ .of name.toList := by
            intro member listed same
            obtain ⟨other, among, key⟩ := key_of_present _ member listed
            rw [List.map_fst_zip (Nat.le_of_eq length)] at among
            rw [text_of_injective name other (same.symm.trans key)] at fresh
            exact fresh among
          have moved : ∀ member ∈
              before ++ (field.map fun value => (Json.Text.of name.toList, value)).toList,
              ∀ other ∈ names, member.1 ≠ .of other.toList := by
            intro member listed other among same
            rcases List.mem_append.mp listed with earlier | named
            · exact others member earlier other (List.mem_cons_of_mem name among) same
            · obtain ⟨value, -, rfl⟩ := Option.map_eq_some_iff.mp (Option.mem_toList.mp named)
              rw [text_of_injective name other same] at fresh
              exact fresh among
          -- The field's own member now stands among those before, where no later name finds it.
          have rest := ih fields length distinct _ moved
          rw [List.append_assoc] at rest
          rw [List.zip_cons_cons, present_cons, List.mapM_cons, member_between _ _ _ _ first last,
            rest]
          rfl

theorem members_shown (names : List String) (fields : List (Option Json))
    (written : Written fields) :
    ((names.map fun name => Json.Text.of name.toList).zip (fields.map (·.getD .null))).filter
      (fun member => !isNull member.2) = present (names.zip fields) := by
  induction names generalizing fields with
  | nil => rfl
  | cons name names ih =>
      cases fields with
      | nil => rfl
      | cons field fields =>
          have rest := ih fields fun value member => written value (List.mem_cons_of_mem field member)
          rw [List.zip_cons_cons, present_cons, ← rest]
          cases field with
          | none => rfl
          | some value =>
              have shown : isNull value = false := by
                have nonnull := (written value List.mem_cons_self).1
                cases value with
                | null => exact absurd rfl nonnull
                | _ => rfl
              simp [shown]

section

variable {M : Type} [Message M]

theorem names_nodup : (names M).Nodup := distinct

def shown (message : M) : List (Option Json) :=
  Row.shown (fields M) (row message)

theorem length_shown (message : M) : (names M).length = (shown message).length := by
  rw [names, List.length_map, shown, Row.length_shown]

theorem written_shown (message : M) : Written (shown message) :=
  Row.written_shown (fields M) (row message)

theorem values_eq (message : M) : values message = (shown message).map (·.getD .null) :=
  Row.values_eq (fields M) (row message)

theorem of_values (message : M) : ofValues? (values message) = some message := by
  rw [ofValues?, values, Row.of_values, Option.map_some, of_row]

theorem members_eq (message : M) : members message = present ((names M).zip (shown message)) := by
  rw [members, values_eq]
  exact members_shown (names M) (shown message) (written_shown message)

theorem of_json_to_json (message : M) : ofJson? (toJson message) = some message := by
  have named : ((members message).any fun member => member.1.unicode?.isNone) = false := by
    apply List.any_eq_false.mpr
    intro member listed
    rw [members_eq] at listed
    obtain ⟨name, -, key⟩ := key_of_present _ member listed
    rw [key, Json.unicode_of]
    simp
  have found := members_by_name (names M) (shown message) (length_shown message) names_nodup [] (by simp)
  rw [List.nil_append, ← members_eq, ← values_eq] at found
  simp only [toJson, ofJson?, named, Bool.false_eq_true, if_false, found, Option.bind_eq_bind,
    Option.bind_some, of_values]

theorem parse_document (message : M) :
    Json.parse? (document message) = some (.object (present ((names M).zip (shown message)))) := by
  rw [document, toJson, members_eq]
  apply Json.parse_document
  apply Json.Reader.object_writes_itself
  intro member listed
  obtain ⟨⟨name, field⟩, among, shown⟩ := List.mem_filterMap.mp listed
  obtain ⟨value, rfl, rfl⟩ := Option.map_eq_some_iff.mp shown
  exact (written_shown message value (List.of_mem_zip among).2).2

theorem of_document_document (message : M) : ofDocument? (document message) = some message := by
  rw [ofDocument?, parse_document, ← members_eq]
  exact of_json_to_json message

end

theorem response_of_document (verb : Verb) (response : Response verb) :
    ofDocument? (document response) = some response := by
  cases verb with
  | encrypt => exact of_document_document (M := EncryptResponse) response
  | decrypt => exact of_document_document (M := DecryptResponse) response

structure RoundTrips {M : Type} [Message M] (message : M) (fields : List (String × Option Json)) :
    Prop where
  written : Json.parse? (document message) = some (.object (present fields))
  neverNull : ∀ member ∈ present fields, member.2 ≠ .null
  read : ofDocument? (document message) = some message
  distinct : ∀ other : M, document other = document message → other = message

theorem round_trips {M : Type} [Message M] (message : M)
    (fields : List (String × Option Json))
    (same : (names M).zip (shown message) = fields) : RoundTrips message fields where
  written := same ▸ parse_document message
  neverNull member listed := by
    subst same
    obtain ⟨⟨name, field⟩, among, shown⟩ := List.mem_filterMap.mp listed
    obtain ⟨value, rfl, rfl⟩ := Option.map_eq_some_iff.mp shown
    exact (written_shown message value (List.of_mem_zip among).2).1
  read := of_document_document message
  distinct other document := by
    have read := of_document_document other
    rw [document, of_document_document message] at read
    exact (Option.some.inj read).symm

theorem messages_round_trip :
    (∀ request : Request .encrypt, RoundTrips request
      [("plaintext", request.payload.map blob.write),
        ("plaintextCrc32c", request.payloadChecksum.map int64.write),
        ("additionalAuthenticatedData", request.associatedData.map blob.write),
        ("additionalAuthenticatedDataCrc32c", request.associatedDataChecksum.map int64.write)]) ∧
    (∀ request : Request .decrypt, RoundTrips request
      [("ciphertext", request.payload.map blob.write),
        ("ciphertextCrc32c", request.payloadChecksum.map int64.write),
        ("additionalAuthenticatedData", request.associatedData.map blob.write),
        ("additionalAuthenticatedDataCrc32c", request.associatedDataChecksum.map int64.write)]) ∧
    (∀ response : EncryptResponse, RoundTrips response
      [("name", response.name.map text.write),
        ("ciphertext", response.ciphertext.map blob.write),
        ("ciphertextCrc32c", response.ciphertextChecksum.map int64.write),
        ("verifiedPlaintextCrc32c", response.verifiedPlaintext.map flag.write),
        ("verifiedAdditionalAuthenticatedDataCrc32c",
          response.verifiedAssociatedData.map flag.write),
        ("protectionLevel", response.protectionLevel.map text.write)]) ∧
    ∀ response : DecryptResponse, RoundTrips response
      [("plaintext", response.plaintext.map blob.write),
        ("plaintextCrc32c", response.plaintextChecksum.map int64.write),
        ("usedPrimary", response.usedPrimary.map flag.write),
        ("protectionLevel", response.protectionLevel.map text.write)] :=
  ⟨fun request => round_trips request _ rfl, fun request => round_trips request _ rfl,
    fun response => round_trips response _ rfl, fun response => round_trips response _ rfl⟩

end Message
end KeyCustody.Wire
