import Mathlib.Data.List.TakeDrop
import KeyCustody.Proofs.PathWalk

set_option autoImplicit false

namespace KeyCustody
namespace Url
namespace Parser

theorem counts_of_inert {c : Char} (inert : Inert c) : counts c = true := by
  have apart (mark : Char) (blank : mark.toNat ≤ 0x20) : c ≠ mark := by
    intro same
    rw [same] at inert
    exact absurd inert.1 (Nat.not_lt.mpr blank)
  simp [counts, apart '\t' (by decide), apart '\n' (by decide), apart '\r' (by decide)]

theorem ends_counted_iff (text : List Char) :
    (∀ c ∈ text.filter counts, endsPath c = false) ↔ ∀ c ∈ text, endsPath c = false := by
  constructor
  · intro counted c member
    cases ends : endsPath c with
    | false => rfl
    | true =>
        have mark : c = '?' ∨ c = '#' := by simpa [endsPath] using ends
        have count : counts c = true := by
          obtain rfl | rfl := mark
          · rfl
          · rfl
        have passed := counted c (List.mem_filter.mpr ⟨member, count⟩)
        rw [ends] at passed
        exact passed
  · intro all c member
    exact all c (List.mem_filter.mp member).1

theorem drop_blank {text : List Char} (first : ∀ c ∈ text.head?, 0x20 < c.toNat) :
    text.dropWhile (fun c => decide (c.toNat ≤ 0x20)) = text := by
  cases text with
  | nil => rfl
  | cons c text =>
      have visible := first c rfl
      rw [List.dropWhile_cons_of_neg]
      simpa using visible

theorem stripped_eq {text : List Char} (first : ∀ c ∈ text.head?, 0x20 < c.toNat)
    (last : ∀ c ∈ text.getLast?, 0x20 < c.toNat) : stripped text = text.filter counts := by
  have reversed : ∀ c ∈ text.reverse.head?, 0x20 < c.toNat := by
    rw [List.head?_reverse]
    exact last
  simp only [stripped, drop_blank first, drop_blank reversed, List.reverse_reverse]
  rfl

theorem scheme_http {scheme : String} (http : scheme = "http" ∨ scheme = "https") (rest : List Char) :
    scheme? (scheme.toList ++ ':' :: rest) = some (scheme, rest) := by
  obtain rfl | rfl := http
  · rfl
  · rfl

theorem tail_none : tail true [] = (none, none) := rfl

theorem tail_some {c : Char} (ends : endsPath c = true) (text : List Char) :
    tail true (c :: text) ≠ (none, none) := by
  simp only [endsPath, Bool.or_eq_true, decide_eq_true_eq] at ends
  cases ends with
  | inl mark =>
      rw [mark]
      simp [tail, List.span_eq_takeWhile_dropWhile]
  | inr mark =>
      rw [mark]
      simp [tail, List.span_eq_takeWhile_dropWhile]

theorem tail_none_iff (text : List Char) :
    tail true (text.dropWhile (!endsPath ·)) = (none, none) ↔ ∀ c ∈ text, endsPath c = false := by
  have fails := List.head?_dropWhile_not (!endsPath ·) text
  cases behind : text.dropWhile (!endsPath ·) with
  | nil =>
      refine ⟨fun _ c member => ?_, fun _ => tail_none⟩
      have passed := List.all_takeWhile (p := (!endsPath ·)) (l := text)
      have whole := List.takeWhile_append_dropWhile (p := (!endsPath ·)) (l := text)
      rw [behind, List.append_nil] at whole
      rw [whole, List.all_eq_true] at passed
      simpa using passed c member
  | cons c rest =>
      rw [behind] at fails
      have ends : endsPath c = true := by simpa using fails
      constructor
      · intro none
        exact absurd none (tail_some ends rest)
      · intro passed
        have suffix := List.dropWhile_suffix (l := text) (!endsPath ·)
        rw [behind] at suffix
        rw [passed c (suffix.subset List.mem_cons_self)] at ends
        cases ends

section

variable {scheme : String} (http : scheme = "http" ∨ scheme = "https") {authority : List Char}
  (nonempty : authority ≠ []) (inert : ∀ c ∈ authority, Inert c)

include http in
theorem special_http : scheme ≠ "file" ∧ isSpecialScheme scheme = true := by
  obtain rfl | rfl := http
  · decide
  · decide

include inert in
theorem hierarchy_http (scheme : String) (rest : List Char) :
    hierarchical? scheme true (authority ++ '/' :: rest) =
      (authority? scheme true false authority).map fun parts => {
        scheme
        username := parts.username
        password := parts.password
        host := some parts.host
        port := parts.port
        path := .segments (segments true (rest.takeWhile (!endsPath ·)))
        query := (tail true (rest.dropWhile (!endsPath ·))).1
        fragment := (tail true (rest.dropWhile (!endsPath ·))).2 } := by
  have passed : ∀ c ∈ authority, (!endsAuthority true c) = true := by
    intro c member
    obtain ⟨-, slash, backslash, question, hash⟩ := inert c member
    simp [endsAuthority, isSlash, endsPath, slash, backslash, question, hash]
  have cut : (authority ++ '/' :: rest).span (fun c => !endsAuthority true c) =
      (authority, '/' :: rest) := by
    rw [List.span_eq_takeWhile_dropWhile, List.takeWhile_append_of_pos passed,
      List.dropWhile_append_of_pos passed, List.takeWhile_cons_of_neg (by decide),
      List.dropWhile_cons_of_neg (by decide), List.append_nil]
  have path : ('/' :: rest).span (fun c => !endsPath c) =
      ('/' :: rest.takeWhile (!endsPath ·), rest.dropWhile (!endsPath ·)) := by
    rw [List.span_eq_takeWhile_dropWhile, List.takeWhile_cons_of_pos (by decide),
      List.dropWhile_cons_of_pos (by decide)]
  have empty : ('/' :: rest = []) = False := eq_false (List.cons_ne_nil _ _)
  simp only [hierarchical?, cut, path, empty, decide_false]
  cases read : authority? scheme true false authority with
  | none => rfl
  | some parts =>
      have none : parts.rest = [] := by
        cases (authority_reads read).2.2 with
        | inl none => exact none
        | inr backslash => exact absurd rfl (inert _ backslash).2.2.1
      simp only [Option.map_some, Option.bind_eq_bind, Option.bind_some, none, List.nil_append]
      rfl

include http nonempty inert in
theorem parse_http {rest : List Char} (last : ∀ c ∈ rest.getLast?, 0x20 < c.toNat) :
    parse? (String.ofList (scheme.toList ++ ':' :: '/' :: '/' :: (authority ++ '/' :: rest))) =
      hierarchical? scheme true (authority ++ '/' :: rest.filter counts) := by
  have visible : ∀ c ∈ scheme.toList, Inert c := by
    obtain rfl | rfl := http
    · exact forall_of_all (by decide)
    · exact forall_of_all (by decide)
  have kept {text : List Char} (inert : ∀ c ∈ text, Inert c) : text.filter counts = text :=
    List.filter_eq_self.mpr fun c member => counts_of_inert (inert c member)
  have whole : stripped (scheme.toList ++ ':' :: '/' :: '/' :: (authority ++ '/' :: rest)) =
      scheme.toList ++ ':' :: '/' :: '/' :: (authority ++ '/' :: rest.filter counts) := by
    have first : ∀ c ∈ (scheme.toList ++ ':' :: '/' :: '/' :: (authority ++ '/' :: rest)).head?,
        0x20 < c.toNat := by
      obtain rfl | rfl := http
      · simp
      · simp
    have lastVisible : ∀ c ∈ (scheme.toList ++ ':' :: '/' :: '/' :: (authority ++ '/' :: rest)).getLast?,
        0x20 < c.toNat := by
      have ending : ∀ c ∈ ('/' :: rest).getLast?, 0x20 < c.toNat := by
        rw [List.getLast?_cons]
        cases end_eq : rest.getLast? with
        | none => simp
        | some d => simpa using last d end_eq
      simpa [List.getLast?_append, List.getLast?_cons] using ending
    rw [stripped_eq first lastVisible]
    · have marks : counts ':' = true ∧ counts '/' = true := by decide
      rw [List.filter_append, kept visible, List.filter_cons_of_pos marks.1,
        List.filter_cons_of_pos marks.2, List.filter_cons_of_pos marks.2, List.filter_append, kept inert,
        List.filter_cons_of_pos marks.2]
  have opening : ('/' :: '/' :: (authority ++ '/' :: rest.filter counts)).dropWhile (isSlash true) =
      authority ++ '/' :: rest.filter counts := by
    cases authority with
    | nil => exact absurd rfl nonempty
    | cons c authority =>
        obtain ⟨-, slash, backslash, -, -⟩ := inert c List.mem_cons_self
        rw [List.dropWhile_cons_of_pos (by decide), List.dropWhile_cons_of_pos (by decide),
          List.cons_append, List.dropWhile_cons_of_neg]
        simp [isSlash, slash, backslash]
  obtain ⟨noFile, special⟩ := special_http http
  simp only [parse?, String.toList_ofList, whole, scheme_http http, Option.bind_eq_bind,
    Option.bind_some, if_neg noFile, if_pos special, opening]

end

theorem hierarchical_scheme {scheme : String} {special : Bool} {text : List Char} {url : Url}
    (read : hierarchical? scheme special text = some url) : url.scheme = scheme := by
  obtain ⟨parts, -, same⟩ := Option.bind_eq_some_iff.mp read
  cases same
  rfl

theorem file_scheme {text : List Char} {url : Url} (read : file? text = some url) :
    url.scheme = "file" := by
  simp only [file?, Option.bind_eq_bind] at read
  repeat' split at read
  all_goals
    obtain ⟨parts, -, same⟩ := Option.bind_eq_some_iff.mp read
    cases same
    rfl

theorem plain_scheme {scheme : String} {text : List Char} {url : Url}
    (read : plain? scheme text = some url) : url.scheme = scheme := by
  unfold plain? at read
  split at read
  · exact hierarchical_scheme read
  · cases read
    rfl

end Parser

open KeyCustody.Url.Parser

structure Normal (url : Url) (host : Host) (segments : List String) : Prop where
  http : url.scheme = "http" ∨ url.scheme = "https"
  userinfo : UserinfoEncoded url.username url.password
  hostGiven : url.host = some host
  hostRead : ∃ text, Host.special? text = url.host
  path : url.path = .segments segments
  nonempty : segments ≠ []
  steady : ∀ segment ∈ segments, Steady segment.toList

theorem normal_hierarchy {scheme : String} (http : scheme = "http" ∨ scheme = "https")
    {text : List Char} {url : Url} (read : hierarchical? scheme true text = some url) :
    ∃ host segments, Normal url host segments := by
  obtain ⟨parts, authority, same⟩ := Option.bind_eq_some_iff.mp read
  cases same
  obtain ⟨userinfo, hostRead, -⟩ := authority_reads authority
  have path (text : List Char) : hierarchySegments true text ≠ [] ∧
      ∀ segment ∈ hierarchySegments true text, Steady segment.toList := by
    cases text with
    | nil => exact ⟨List.cons_ne_nil _ _, List.forall_mem_singleton.mpr steady_nil⟩
    | cons c text => exact segments_steady _
  exact ⟨parts.host, _, {
    http
    userinfo
    hostGiven := rfl
    hostRead
    path := rfl
    nonempty := (path _).1
    steady := (path _).2 }⟩

theorem normal_of_parse {text : String} {url : Url} (read : parse? text = some url)
    (http : url.isHttp = true) : ∃ host segments, Normal url host segments := by
  have schemes : url.scheme = "http" ∨ url.scheme = "https" := by
    simpa [isHttp] using http
  obtain ⟨⟨scheme, rest⟩, -, more⟩ := Option.bind_eq_some_iff.mp read
  simp only at more
  split at more
  · have file := file_scheme more
    rw [file] at schemes
    exact absurd schemes (by decide)
  · split at more
    · obtain rfl := hierarchical_scheme more
      exact normal_hierarchy schemes more
    · rename_i notSpecial
      obtain rfl := plain_scheme more
      exact absurd (special_http schemes).2 notSpecial

theorem mem_join_steady {segments : List (List Char)} (steady : ∀ segment ∈ segments, Steady segment)
    {c : Char} (member : c ∈ List.intercalate ['/'] segments) : c = '/' ∨ Inert c := by
  cases mem_join '/' member with
  | inl slash => exact .inl slash
  | inr found =>
      obtain ⟨segment, among, within⟩ := found
      exact .inr (steady_inert (steady segment among) c within)

def slashed (segments : List (List Char)) : List Char :=
  segments.flatMap ('/' :: ·)

theorem slashed_eq_join {segments : List (List Char)} (nonempty : segments ≠ []) :
    slashed segments = '/' :: List.intercalate ['/'] segments := by
  induction segments with
  | nil => exact absurd rfl nonempty
  | cons segment rest ih =>
      cases rest with
      | nil => simp [slashed, List.intercalate]
      | cons next rest =>
          have later := ih (List.cons_ne_nil next rest)
          rw [List.intercalate_cons_cons, List.append_assoc, List.singleton_append, ← later]
          rfl

theorem write_segments (segments : List String) :
    (Path.write (.segments segments)).toList = slashed (segments.map String.toList) := by
  simp [Path.write, slashed, String.toList_join, List.flatMap_map]

def authorityText (url : Url) (host : Host) : List Char :=
  url.writeUserinfo.toList ++ host.write.toList ++ (writePort url.port).toList

namespace Normal

variable {url : Url} {host : Host} {segments : List String} (normal : Normal url host segments)

include normal in
theorem authority_inert : ∀ c ∈ url.authorityText host, Inert c := by
  obtain ⟨text, read⟩ := normal.hostRead
  have hostInert := (Host.inert_write (read.trans normal.hostGiven)).2
  intro c member
  simp only [authorityText, List.mem_append] at member
  obtain (user | name) | port := member
  · exact inert_write_userinfo normal.userinfo c user
  · exact hostInert c name
  · exact inert_port url.port c port

include normal in
theorem authority_nonempty : url.authorityText host ≠ [] := by
  obtain ⟨text, read⟩ := normal.hostRead
  have named := (Host.inert_write (read.trans normal.hostGiven)).1
  intro none
  simp only [authorityText, List.append_eq_nil_iff] at none
  exact named (String.toList_eq_nil_iff.mp none.1.2)

include normal in
theorem written (query : url.query = none) (fragment : url.fragment = none) :
    url.write.toList = url.scheme.toList ++
      ':' :: '/' :: '/' :: (url.authorityText host ++ slashed (segments.map String.toList)) := by
  simp only [write, writeAuthority, normal.hostGiven, normal.path, query, fragment, writeAfter,
    String.toList_append, write_segments, authorityText]
  simp

include normal in
theorem authority_read (reads : parse? url.write = some url) (query : url.query = none)
    (fragment : url.fragment = none) :
    ∃ parts, authority? url.scheme true false (url.authorityText host) = some parts ∧
      some parts.host = url.host ∧ parts.port = url.port := by
  have segmentsSome : segments.map String.toList ≠ [] := by
    rw [ne_eq, List.map_eq_nil_iff]
    exact normal.nonempty
  have text : url.write = String.ofList (url.scheme.toList ++ ':' :: '/' :: '/' ::
      (url.authorityText host ++ '/' :: List.intercalate ['/'] (segments.map String.toList))) := by
    rw [← slashed_eq_join segmentsSome, ← normal.written query fragment, String.ofList_toList]
  have visible : ∀ c ∈ List.intercalate ['/'] (segments.map String.toList), 0x20 < c.toNat := by
    have steady : ∀ segment ∈ segments.map String.toList, Steady segment := by
      rw [List.forall_mem_map]
      exact normal.steady
    intro c member
    obtain rfl | inert := mem_join_steady steady member
    · decide
    · exact inert.1
  have final : ∀ c ∈ (List.intercalate ['/'] (segments.map String.toList)).getLast?, 0x20 < c.toNat :=
    fun c last => visible c (List.mem_of_getLast? last)
  rw [text, parse_http normal.http normal.authority_nonempty normal.authority_inert final,
    hierarchy_http normal.authority_inert] at reads
  obtain ⟨parts, read, same⟩ := Option.map_eq_some_iff.mp reads
  exact ⟨parts, read, congrArg Url.host same, congrArg Url.port same⟩

end Normal

end Url
end KeyCustody
