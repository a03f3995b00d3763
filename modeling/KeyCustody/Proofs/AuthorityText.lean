import KeyCustody.Proofs.PercentOctets

set_option autoImplicit false

namespace KeyCustody

-- A character that neither ends the authority of a special scheme nor is left out of it.
def Inert (c : Char) : Prop :=
  0x20 < c.toNat ∧ c ≠ '/' ∧ c ≠ '\\' ∧ c ≠ '?' ∧ c ≠ '#'

instance : DecidablePred Inert :=
  fun c => inferInstanceAs (Decidable (0x20 < c.toNat ∧ c ≠ '/' ∧ c ≠ '\\' ∧ c ≠ '?' ∧ c ≠ '#'))

theorem inert_iff (c : Char) :
    Inert c ↔ 0x20 < c.toNat ∧ c.toNat ≠ 0x2F ∧ c.toNat ≠ 0x5C ∧ c.toNat ≠ 0x3F ∧ c.toNat ≠ 0x23 := by
  simp only [Inert, ne_eq, ← Char.toNat_inj]
  exact Iff.rfl

theorem inert_to_digits {base : Nat} (low : 1 < base) (high : base ≤ 16) (n : Nat) :
    ∀ c ∈ Nat.toDigits base n, Inert c := by
  have digits : ∀ d < 16, Inert d.digitChar := by decide
  induction n using Nat.strongRecOn with
  | ind n ih =>
      intro c member
      by_cases small : n < base
      · rw [Nat.toDigits_of_lt_base small, List.mem_singleton] at member
        rw [member]
        exact digits n (by omega)
      · rw [Nat.toDigits_of_base_le low (by omega), List.mem_append, List.mem_singleton] at member
        cases member with
        | inl front => exact ih (n / base) (Nat.div_lt_self (by omega) low) c front
        | inr last =>
            rw [last]
            have within := Nat.mod_lt n (by omega : base > 0)
            exact digits _ (by omega)

theorem mem_join (separator : Char) {pieces : List (List Char)} {c : Char}
    (member : c ∈ List.intercalate [separator] pieces) : c = separator ∨ ∃ piece ∈ pieces, c ∈ piece := by
  induction pieces with
  | nil => cases member
  | cons piece rest ih =>
      cases rest with
      | nil =>
          have inPiece : c ∈ piece := by simpa [List.intercalate] using member
          exact .inr ⟨piece, List.mem_cons_self, inPiece⟩
      | cons next rest =>
          rw [List.intercalate_cons_cons, List.append_assoc, List.mem_append, List.singleton_append,
            List.mem_cons] at member
          obtain first | same | later := member
          · exact .inr ⟨piece, List.mem_cons_self, first⟩
          · exact .inl same
          · cases ih later with
            | inl same => exact .inl same
            | inr found =>
                obtain ⟨other, among, inOther⟩ := found
                exact .inr ⟨other, List.mem_cons_of_mem _ among, inOther⟩

theorem mem_map_m {α β : Type} {f : α → Option β} {inputs : List α} {results : List β}
    (read : inputs.mapM f = some results) : ∀ y ∈ results, ∃ x ∈ inputs, f x = some y := by
  induction inputs generalizing results with
  | nil =>
      cases read
      nofun
  | cons x inputs ih =>
      rw [List.mapM_cons] at read
      obtain ⟨first, readFirst, more⟩ := Option.bind_eq_some_iff.mp read
      obtain ⟨rest, readRest, same⟩ := Option.bind_eq_some_iff.mp more
      cases same
      intro y member
      cases member with
      | head => exact ⟨x, List.mem_cons_self, readFirst⟩
      | tail _ later =>
          obtain ⟨x', among, found⟩ := ih readRest y later
          exact ⟨x', List.mem_cons_of_mem _ among, found⟩

namespace Domain

theorem inert_of_allowed {c : Char} (allowed : isForbidden c = false) : Inert c := by
  simp only [isForbidden, Bool.or_eq_false_iff, decide_eq_false_iff_not, Nat.not_le] at allowed
  obtain ⟨⟨visible, -⟩, free⟩ := allowed
  refine ⟨visible, ?_, ?_, ?_, ?_⟩
  all_goals
    intro mark
    rw [mark] at free
    exact absurd free (by decide)

namespace Punycode

theorem inert_digit {value : Nat} (small : value < 36) : Inert (digit value) := by
  have all : ∀ value < 36, Inert (digit value) := by decide
  exact all value small

theorem inert_digits (bias position delta : Nat) : ∀ c ∈ digits bias position delta, Inert c := by
  fun_induction digits bias position delta with
  | case1 position delta t below =>
      have bounds := threshold_bounds position bias
      simp only [List.mem_singleton, forall_eq]
      exact inert_digit (by omega)
  | case2 position delta t above ih =>
      have bounds := threshold_bounds position bias
      have within := Nat.mod_lt (delta - t) (by omega : 36 - t > 0)
      exact List.forall_mem_cons.mpr ⟨inert_digit (by omega), ih⟩

theorem inert_pass (basic next : Nat) (state : Writing) (c : Char)
    (inert : ∀ d ∈ state.output, Inert d) : ∀ d ∈ (pass basic next state c).output, Inert d := by
  unfold pass
  split
  · exact inert
  · split
    · exact List.forall_mem_append.mpr ⟨inert, inert_digits _ _ _⟩
    · exact inert

theorem inert_extend (label : List Char) (basic : Nat) (others : List Nat) (low : Nat) (state : Writing)
    (inert : ∀ d ∈ state.output, Inert d) :
    ∀ d ∈ (extend label basic others low state).output, Inert d := by
  induction others generalizing low state with
  | nil => exact inert
  | cons next rest ih =>
      apply ih
      apply List.foldlRecOn (motive := fun state : Writing => ∀ d ∈ state.output, Inert d)
      · exact inert
      · intro state kept c _
        exact inert_pass basic next state c kept

theorem inert_encode (label : List Char) (inert : ∀ c ∈ label, Inert c) :
    ∀ c ∈ encode label, Inert c := by
  apply inert_extend
  split
  · nofun
  · intro c member
    cases List.mem_append.mp member with
    | inl basic => exact inert c (List.mem_filter.mp basic).1
    | inr mark =>
        rw [List.mem_singleton.mp mark]
        decide

theorem inert_of_value {c : Char} {value : Nat} (read : value? c = some value) : Inert c := by
  have small : ('a' ≤ c ∧ c ≤ 'z') ↔ 0x61 ≤ c.toNat ∧ c.toNat ≤ 0x7A := Iff.rfl
  have capital : ('A' ≤ c ∧ c ≤ 'Z') ↔ 0x41 ≤ c.toNat ∧ c.toNat ≤ 0x5A := Iff.rfl
  have digit : ('0' ≤ c ∧ c ≤ '9') ↔ 0x30 ≤ c.toNat ∧ c.toNat ≤ 0x39 := Iff.rfl
  simp only [value?, small, capital, digit] at read
  rw [inert_iff]
  grind

theorem difference_reads {bias position weight sum delta : Nat} {text rest : List Char}
    (read : difference? bias position weight sum text = some (delta, rest)) :
    ∃ front, text = front ++ rest ∧ ∀ c ∈ front, Inert c := by
  induction text generalizing position weight sum with
  | nil => cases read
  | cons c text ih =>
      simp only [difference?] at read
      split at read
      · cases read
      · rename_i value digit
        have first := inert_of_value digit
        split at read
        · cases read
          exact ⟨[c], rfl, by simpa using first⟩
        · obtain ⟨front, rfl, inert⟩ := ih read
          exact ⟨c :: front, rfl, List.forall_mem_cons.mpr ⟨first, inert⟩⟩

theorem insert_all_reads {fuel next index bias : Nat} {label text result : List Char}
    (read : insertAll? fuel next index bias label text = some result) :
    (∀ c ∈ label, c ∈ result) ∧ ∀ c ∈ text, Inert c := by
  fun_induction insertAll? fuel next index bias label text with
  | case1 _ _ _ _ label =>
      cases read
      exact ⟨fun _ member => member, nofun⟩
  | case2 => cases read
  | case3 => cases read
  | case4 fuel next index bias label text _ delta rest found count place code valid position ih =>
      obtain ⟨front, rfl, inert⟩ := difference_reads found
      obtain ⟨kept, inertRest⟩ := ih read
      refine ⟨fun c member => kept c ?_, List.forall_mem_append.mpr ⟨inert, inertRest⟩⟩
      rw [← List.take_append_drop position label, List.mem_append] at member
      simp only [List.mem_append, List.mem_singleton]
      cases member with
      | inl before => exact .inl (.inl before)
      | inr behind => exact .inr behind
  | case5 => cases read

theorem cut_covers {text tail : List Char}
    (cut : tail = (text.reverse.takeWhile (· ≠ '-')).reverse) (c : Char) (member : c ∈ text) :
    c ∈ (text.take (text.length - tail.length)).dropLast ∨ c = '-' ∨ c ∈ tail := by
  have whole : text = (text.reverse.dropWhile (· ≠ '-')).reverse ++ tail := by
    rw [cut, ← List.reverse_append, List.takeWhile_append_dropWhile, List.reverse_reverse]
  generalize behind : text.reverse.dropWhile (· ≠ '-') = rest at whole
  have front : text.take (text.length - tail.length) = rest.reverse := by
    rw [whole, List.length_append, Nat.add_sub_cancel, List.take_left]
  rw [front]
  rw [whole, List.mem_append] at member
  cases member with
  | inr inTail => exact .inr (.inr inTail)
  | inl inFront =>
      cases rest with
      | nil => cases inFront
      | cons mark rest =>
          have hyphen : mark = '-' := by
            have fails := List.head?_dropWhile_not (· ≠ '-') text.reverse
            rw [behind] at fails
            simpa using fails
          rw [List.reverse_cons, List.dropLast_concat]
          rw [List.reverse_cons, List.mem_append, List.mem_singleton] at inFront
          cases inFront with
          | inl before => exact .inl before
          | inr same => exact .inr (.inl (same.trans hyphen))

theorem inert_of_decode {text result : List Char} (read : decode? text = some result)
    (inert : ∀ c ∈ result, Inert c) : ∀ c ∈ text, Inert c := by
  obtain ⟨kept, inertTail⟩ := insert_all_reads read
  intro c member
  obtain front | rfl | tail := cut_covers rfl c member
  · exact inert c (kept c front)
  · decide
  · exact inertTail c tail

end Punycode

theorem inert_shown {shown : List Char} (allowed : Label.isAllowed shown = true) :
    ∀ c ∈ shown, Inert c := by
  simp only [Label.isAllowed, Bool.and_eq_true, Bool.not_eq_true', List.any_eq_false] at allowed
  intro c member
  exact inert_of_allowed (Bool.eq_false_iff.mpr (allowed.1.1.1 c member))

theorem inert_marked {body : List Char} (inert : ∀ c ∈ body, Inert c) :
    ∀ c ∈ encodedMark ++ body, Inert c := by
  intro c member
  cases List.mem_append.mp member with
  | inl mark =>
      have all : ∀ c ∈ encodedMark, Inert c := forall_of_all (by decide)
      exact all c mark
  | inr inBody => exact inert c inBody

theorem inert_of_written {written : List Char} {label : Label}
    (marked : encodedMark.isPrefixOf written = true) (read : Label.ofWritten? written = some label) :
    ∀ c ∈ label.written, Inert c := by
  obtain ⟨body, rfl⟩ := List.isPrefixOf_iff_prefix.mp marked
  simp only [Label.ofWritten?, List.drop_left] at read
  split at read
  · split at read
    · rename_i shown decoded
      split at read
      · rename_i sound
        cases read
        simp only [Bool.and_eq_true] at sound
        exact inert_marked (Punycode.inert_of_decode decoded (inert_shown sound.2))
      · cases read
    · cases read
  · cases read

theorem inert_label {text : List Char} {label : Label} (read : Label.ofText? text = some label) :
    ∀ c ∈ label.written, Inert c := by
  unfold Label.ofText? at read
  split at read
  · exact inert_of_written ‹_› read
  · split at read
    · rename_i allowed
      have shown := inert_shown allowed
      cases read
      simp only
      split
      · exact shown
      · exact inert_marked (Punycode.inert_encode text shown)
    · cases read

theorem inert_labels {text : List Char} {labels : List Label} (read : labels? text = some labels) :
    ∀ label ∈ labels, ∀ c ∈ label.written, Inert c := by
  unfold labels? at read
  split at read
  · obtain ⟨label, readLabel, rfl⟩ := Option.map_eq_some_iff.mp read
    exact List.forall_mem_singleton.mpr (inert_label readLabel)
  · obtain ⟨mapped, -, readAll⟩ := Option.bind_eq_some_iff.mp read
    intro label member
    obtain ⟨piece, -, readLabel⟩ := mem_map_m readAll label member
    exact inert_label readLabel

theorem inert_ascii {name text : List Char} (read : ascii? name = some text) : ∀ c ∈ text, Inert c := by
  obtain ⟨groups, readGroups, more⟩ := Option.bind_eq_some_iff.mp read
  simp only at more
  split at more
  · cases more
  · cases more
    intro c member
    obtain rfl | found := mem_join '.' member
    · decide
    · obtain ⟨written, among, inWritten⟩ := found
      obtain ⟨label, inLabels, rfl⟩ := List.mem_map.mp among
      obtain ⟨labels, inGroups, inGroup⟩ := List.mem_flatten.mp inLabels
      obtain ⟨piece, -, readLabels⟩ := mem_map_m readGroups labels inGroups
      exact inert_labels readLabels label inGroup c inWritten

end Domain

namespace Url

namespace Host

theorem inert_ipv4 (address : Nat) : ∀ c ∈ (writeIpv4 address).toList, Inert c := by
  intro c member
  rw [writeIpv4, String.toList_intercalate] at member
  obtain rfl | found := mem_join '.' member
  · decide
  · obtain ⟨piece, among, inPiece⟩ := found
    simp only [List.map_map, List.mem_map, Function.comp_apply] at among
    obtain ⟨octet, -, rfl⟩ := among
    rw [Nat.toString_eq_repr, Nat.toList_repr] at inPiece
    exact inert_to_digits (by decide) (by decide) _ c inPiece

theorem inert_groups (pieces : List Nat) : ∀ c ∈ (writeGroups pieces).toList, Inert c := by
  intro c member
  rw [writeGroups, String.toList_intercalate] at member
  obtain rfl | found := mem_join ':' member
  · decide
  · obtain ⟨piece, among, inPiece⟩ := found
    simp only [List.map_map, List.mem_map, Function.comp_apply] at among
    obtain ⟨group, -, rfl⟩ := among
    rw [hexText, String.toList_ofList] at inPiece
    exact inert_to_digits (by decide) (by decide) _ c inPiece

theorem inert_compressed (pieces : List Nat) : ∀ c ∈ (writeCompressed pieces).toList, Inert c := by
  simp only [writeCompressed]
  split
  · intro c member
    simp only [String.toList_append, List.mem_append] at member
    obtain (front | colons) | back := member
    · exact inert_groups _ c front
    · have colon : ∀ c ∈ "::".toList, Inert c := forall_of_all (by decide)
      exact colon c colons
    · exact inert_groups _ c back
  · exact inert_groups pieces

theorem inert_ipv6 (pieces : List Nat) : ∀ c ∈ (write (.ipv6 pieces)).toList, Inert c := by
  intro c member
  simp only [write, String.toList_append, List.mem_append] at member
  have bracket : ∀ c ∈ "[".toList ++ "]".toList, Inert c := forall_of_all (by decide)
  obtain (opening | address) | closing := member
  · exact bracket c (List.mem_append_left _ opening)
  · exact inert_compressed pieces c address
  · exact bracket c (List.mem_append_right _ closing)

theorem inert_write {text : List Char} {host : Host} (read : special? text = some host) :
    host.write ≠ "" ∧ ∀ c ∈ host.write.toList, Inert c := by
  unfold special? at read
  split at read
  · split at read
    · obtain ⟨pieces, -, rfl⟩ := Option.map_eq_some_iff.mp read
      refine ⟨?_, inert_ipv6 pieces⟩
      intro empty
      have letters := congrArg String.toList empty
      simp [write] at letters
    · cases read
  · obtain ⟨decoded, -, readDomain⟩ := Option.bind_eq_some_iff.mp read
    obtain ⟨domain, ascii, more⟩ := Option.bind_eq_some_iff.mp readDomain
    split at more
    · cases more
    · split at more
      · obtain ⟨address, -, rfl⟩ := Option.map_eq_some_iff.mp more
        refine ⟨?_, inert_ipv4 address⟩
        intro empty
        have letters := congrArg String.toList empty
        simp [write, writeIpv4, Bytes.ofNat] at letters
      · rename_i some _
        cases more
        refine ⟨fun empty => some ?_, ?_⟩
        · simpa [write] using congrArg String.toList empty
        · rw [write, String.toList_ofList]
          exact Domain.inert_ascii ascii

end Host

theorem inert_escape : ∀ c ∈ escapeChars, Inert c :=
  forall_of_all (by decide)

theorem inert_userinfo (text : List Char) : ∀ c ∈ percentEncode .userinfo text, Inert c := by
  intro c member
  obtain ⟨-, printable, -, free⟩ | written := mem_percent_encode member
  · have marks : ∀ c ∈ [' ', '/', '\\', '?', '#'], c ∈ EncodeSet.userinfo := forall_of_all (by decide)
    have apart (mark : Char) (among : mark ∈ [' ', '/', '\\', '?', '#']) : c ≠ mark :=
      fun same => free (same ▸ marks mark among)
    have visible : 0x20 < c.toNat := by
      apply Nat.lt_of_le_of_ne printable
      intro blank
      exact apart ' ' (by decide) (Char.toNat_inj.mp blank.symm)
    exact ⟨visible, apart _ (by decide), apart _ (by decide), apart _ (by decide), apart _ (by decide)⟩
  · exact inert_escape c written

theorem inert_port (port : Option Nat) : ∀ c ∈ (writePort port).toList, Inert c := by
  cases port with
  | none => nofun
  | some port =>
      intro c member
      rw [writePort, String.toList_append, Nat.toString_eq_repr, Nat.toList_repr] at member
      cases List.mem_append.mp member with
      | inl colon =>
          have all : ∀ c ∈ ":".toList, Inert c := forall_of_all (by decide)
          exact all c colon
      | inr digits => exact inert_to_digits (by decide) (by decide) port c digits

structure UserinfoEncoded (username : String) (password : Option String) : Prop where
  username : ∃ text, username = String.ofList (percentEncode .userinfo text)
  password : ∀ encoded, password = some encoded →
    ∃ text, encoded = String.ofList (percentEncode .userinfo text)

theorem inert_write_userinfo {url : Url} (encoded : UserinfoEncoded url.username url.password) :
    ∀ c ∈ url.writeUserinfo.toList, Inert c := by
  obtain ⟨user, username⟩ := encoded.username
  have inert : ∀ c ∈ url.username.toList, Inert c := by
    rw [username, String.toList_ofList]
    exact inert_userinfo user
  have marks : ∀ c ∈ ":".toList ++ "@".toList, Inert c := forall_of_all (by decide)
  unfold writeUserinfo
  split
  · rename_i password given
    obtain ⟨secret, written⟩ := encoded.password password given
    intro c member
    simp only [String.toList_append, List.mem_append] at member
    obtain ((name | colon) | word) | at_sign := member
    · exact inert c name
    · exact marks c (List.mem_append_left _ colon)
    · rw [written, String.toList_ofList] at word
      exact inert_userinfo secret c word
    · exact marks c (List.mem_append_right _ at_sign)
  · split
    · nofun
    · intro c member
      rw [String.toList_append, List.mem_append] at member
      cases member with
      | inl name => exact inert c name
      | inr at_sign => exact marks c (List.mem_append_right _ at_sign)

namespace Parser

theorem mem_of_at_last {mark : Char} {text before after : List Char}
    (cut : atLast? mark text = some (before, after)) : ∀ c ∈ after, c ∈ text := by
  unfold atLast? at cut
  split at cut
  · cases cut
    intro c member
    exact List.mem_reverse.mp (List.takeWhile_subset _ (List.mem_reverse.mp member))
  · cases cut

theorem mem_of_at_port (inside : Bool) (text port : List Char)
    (cut : (atPort inside text).2 = some port) : ∀ c ∈ port, c ∈ text := by
  induction text generalizing inside with
  | nil => cases cut
  | cons c text ih =>
      rw [atPort] at cut
      split at cut
      · cases cut
        exact fun d member => List.mem_cons_of_mem c member
      · exact fun d member => List.mem_cons_of_mem c (ih _ cut d member)

theorem port_leaves {scheme : String} {text rest : List Char} {port : Option Nat}
    (read : port? scheme text = some (port, rest)) : rest = [] ∨ '\\' ∈ text := by
  have left : rest = text.dropWhile Char.isDigit ∧
      ¬((text.dropWhile Char.isDigit).head?.any (· ≠ '\\')) = true := by
    simp only [port?] at read
    split at read
    · cases read
    · rename_i only
      split at read
      · cases read
        exact ⟨rfl, only⟩
      · obtain ⟨number, -, more⟩ := Option.bind_eq_some_iff.mp read
        split at more
        · cases more
        · cases more
          exact ⟨rfl, only⟩
  obtain ⟨rfl, only⟩ := left
  cases behind : text.dropWhile Char.isDigit with
  | nil => exact .inl rfl
  | cons c rest =>
      have backslash : c = '\\' := by simpa [behind] using only
      have suffix := List.dropWhile_suffix (l := text) Char.isDigit
      rw [behind, backslash] at suffix
      exact .inr (suffix.subset List.mem_cons_self)

theorem userinfo_encoded (text : List Char) :
    UserinfoEncoded (userinfo text).1 (userinfo text).2 := by
  unfold userinfo
  split
  · exact ⟨⟨_, rfl⟩, fun encoded same => ⟨_, (Option.some.inj same).symm⟩⟩
  · exact ⟨⟨_, rfl⟩, nofun⟩

theorem authority_reads {scheme : String} {last : Bool} {text : List Char} {authority : Authority}
    (read : authority? scheme true last text = some authority) :
    UserinfoEncoded authority.username authority.password ∧
      (∃ hostText, Host.special? hostText = some authority.host) ∧
      (authority.rest = [] ∨ '\\' ∈ text) := by
  unfold authority? at read
  generalize cut : (atLast? '@' text).getD ([], text) = parts at read
  obtain ⟨credentials, address⟩ := parts
  have within : ∀ c ∈ address, c ∈ text := by
    cases found : atLast? '@' text with
    | none =>
        rw [found] at cut
        cases cut
        exact fun c member => member
    | some parts =>
        rw [found] at cut
        cases cut
        exact mem_of_at_last found
  simp only at read
  split at read
  · cases read
  · split at read
    · cases read
    · obtain ⟨host, readHost, more⟩ := Option.bind_eq_some_iff.mp read
      obtain ⟨port, readPort, same⟩ := Option.bind_eq_some_iff.mp more
      cases same
      refine ⟨userinfo_encoded credentials, ⟨_, readHost⟩, ?_⟩
      cases port_leaves readPort with
      | inl none => exact .inl none
      | inr backslash =>
          cases portCut : (atPort false address).2 with
          | none =>
              rw [portCut] at backslash
              cases backslash
          | some portText =>
              rw [portCut] at backslash
              exact .inr (within _ (mem_of_at_port false address portText portCut _ backslash))

end Parser

end Url
end KeyCustody
