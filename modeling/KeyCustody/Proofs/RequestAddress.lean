import KeyCustody.Proofs.HttpRequests
import KeyCustody.Proofs.KeyNameShape
import KeyCustody.Proofs.UrlReading

set_option autoImplicit false

namespace KeyCustody

def KeyName.project (name : KeyName .key) : List Char :=
  (List.splitOn '/' name.text.toList).getD 1 []

namespace Url

open KeyCustody.Url.Parser

def Path.parts (path : Path) : List Bytes :=
  ((List.splitOn '/' path.write.toList).drop 1).map octets

def withoutEndEmpty {α : Type} (parts : List (List α)) : List (List α) :=
  (parts.reverse.dropWhile List.isEmpty).reverse

theorem parts_segments {segments : List String} (free : ∀ segment ∈ segments, '/' ∉ segment.toList) :
    (Path.segments segments).parts = segments.map fun segment => octets segment.toList := by
  rw [Path.parts, write_segments]
  cases segments with
  | nil => rfl
  | cons segment rest =>
      have pieces : segment.toList :: rest.map String.toList ≠ [] := List.cons_ne_nil _ _
      rw [List.map_cons, slashed_eq_join pieces, List.splitOn_cons_eq_if_modifyHead,
        if_pos (beq_self_eq_true _), List.drop_succ_cons, List.drop_zero,
        List.splitOn_intercalate _ _ pieces]
      · simp only [List.map_cons, List.map_map, Function.comp_def]
      · rw [← List.map_cons, List.forall_mem_map]
        exact free

theorem octets_without_end_empty (segments : List (List Char)) :
    withoutEndEmpty (segments.map octets) = (withoutEndEmpty segments).map octets := by
  have same : (List.isEmpty ∘ octets) = (List.isEmpty : List Char → Bool) := by
    funext segment
    rw [Bool.eq_iff_iff, Function.comp_apply, List.isEmpty_iff, List.isEmpty_iff, octets_eq_nil_iff]
  rw [withoutEndEmpty, withoutEndEmpty, ← List.map_reverse, List.dropWhile_map, same, List.map_reverse]

theorem slashed_append (front back : List (List Char)) :
    slashed (front ++ back) = slashed front ++ slashed back :=
  List.flatMap_append

theorem drop_slash_none {text : List Char} (first : text.head? ≠ some '/') :
    text.dropWhile (· = '/') = text := by
  cases text with
  | nil => rfl
  | cons c text =>
      have apart : c ≠ '/' := fun same => first (congrArg some same)
      rw [List.dropWhile_cons_of_neg]
      simpa using apart

theorem drop_end_slashes {front : List Char} (last : front.getLast? ≠ some '/')
    (reversed : List (List Char)) (free : ∀ segment ∈ reversed, '/' ∉ segment) :
    (front ++ slashed reversed.reverse).reverse.dropWhile (· = '/') =
      (front ++ slashed (reversed.dropWhile List.isEmpty).reverse).reverse := by
  induction reversed with
  | nil =>
      apply drop_slash_none
      rw [List.reverse_nil, slashed, List.flatMap_nil, List.append_nil, List.head?_reverse]
      exact last
  | cons segment reversed ih =>
      obtain ⟨apart, later⟩ := List.forall_mem_cons.mp free
      have cut : (front ++ slashed (segment :: reversed).reverse).reverse =
          segment.reverse ++ '/' :: (front ++ slashed reversed.reverse).reverse := by
        rw [List.reverse_cons, slashed_append]
        simp [slashed]
      cases segment with
      | nil =>
          rw [cut, List.reverse_nil, List.nil_append, List.dropWhile_cons_of_pos (by simp), ih later,
            List.dropWhile_cons_of_pos rfl]
      | cons c segment =>
          rw [List.dropWhile_cons_of_neg (by simp)]
          apply drop_slash_none
          rw [cut, List.head?_append, List.head?_reverse, List.getLast?_cons, Option.some_or]
          intro slash
          have member : segment.getLast?.getD c ∈ c :: segment := by
            cases final : segment.getLast? with
            | none => exact List.mem_cons_self
            | some d => exact List.mem_cons_of_mem c (List.mem_of_getLast? final)
          rw [Option.some.inj slash] at member
          exact apart member

theorem without_end_slashes {front : List Char} (last : front.getLast? ≠ some '/')
    {segments : List (List Char)} (free : ∀ segment ∈ segments, '/' ∉ segment) :
    Http.Client.withoutEndSlashes (String.ofList (front ++ slashed segments)) =
      String.ofList (front ++ slashed (withoutEndEmpty segments)) := by
  have dropped := drop_end_slashes last segments.reverse fun segment member =>
    free segment (List.mem_reverse.mp member)
  rw [List.reverse_reverse] at dropped
  rw [Http.Client.withoutEndSlashes, String.toList_ofList, dropped, List.reverse_reverse,
    withoutEndEmpty]

end Url

namespace Http

/-- A URL below a base that stands for the version of the interface and then for a verb on the key of
a name, and for nothing else. -/
structure Addresses (url base : Url) (name : KeyName .key) (verb : Verb) : Prop where
  scheme : url.scheme = base.scheme
  host : url.host = base.host
  port : url.port = base.port
  path : url.path.parts = Url.withoutEndEmpty base.path.parts ++ Utf8.encode "v1".toList ::
    (List.splitOn '/' (name.text.toList ++ ':' :: verb.word.toList)).map Utf8.encode
  query : url.query = none
  fragment : url.fragment = none

theorem Client.destination_eq (url : Url) :
    ∃ username password, destination url = { url with username, password } := by
  unfold destination
  split
  · exact ⟨"", none, rfl⟩
  · exact ⟨url.username, url.password, rfl⟩

theorem addresses_with_userinfo (url base : Url) (name : KeyName .key) (verb : Verb)
    (username : String) (password : Option String) :
    Addresses { url with username, password } base name verb ↔ Addresses url base name verb := by
  constructor
  · rintro ⟨scheme, host, port, path, query, fragment⟩
    exact ⟨scheme, host, port, path, query, fragment⟩
  · rintro ⟨scheme, host, port, path, query, fragment⟩
    exact ⟨scheme, host, port, path, query, fragment⟩

theorem Client.request_of_url (client : Client) {verb : Verb} {name : String} {url : Url}
    (sent : Wire.Request verb) (read : Url.parse? (client.endpoint name verb) = some url)
    (http : url.isHttp = true) :
    ∃ request, client.request? ⟨verb, name, sent⟩ = some request ∧
      request.url = destination url := by
  obtain ⟨request, posted⟩ := Option.isSome_iff_exists.mp
    ((client.request_some_iff ⟨verb, name, sent⟩).mpr ⟨url, read, http⟩)
  have same := (Client.request_posts posted).2.1
  rw [read, Option.map_some] at same
  exact ⟨request, posted, (Option.some.inj same).symm⟩

theorem Client.request_of_same_url (client : Client) {verb : Verb} {name other : String}
    (sent : Wire.Request verb)
    (same : Url.parse? (client.endpoint name verb) = Url.parse? (client.endpoint other verb)) :
    client.request? ⟨verb, name, sent⟩ = client.request? ⟨verb, other, sent⟩ := by
  simp only [request?, same]

def segmentsAbove (base : List (List Char)) : List (List Char) :=
  Url.withoutEndEmpty base ++ ["v1".toList, "projects".toList]

def segmentsBelow (location keyRing key : List Char) (verb : Verb) : List (List Char) :=
  ["locations".toList, location, "keyRings".toList, keyRing, "cryptoKeys".toList,
    key ++ ':' :: verb.word.toList]

def endpointPath (above : List (List Char)) (project : List Char) (below : List (List Char)) :
    List Char :=
  List.intercalate ['/'] above ++ '/' :: (project ++ '/' :: List.intercalate ['/'] below)

open KeyCustody.Url.Parser

section

variable {client : Client} {host : Url.Host} {segments : List String}
  (normal : client.baseUrl.Normal host segments) (query : client.baseUrl.query = none)
  (fragment : client.baseUrl.fragment = none)

include normal query fragment in
theorem endpoint_text {name : KeyName .key} {a b c d : List Char}
    (named : name.text.toList = List.intercalate ['/'] (KeyGrammar.pieces a b c d)) (verb : Verb) :
    client.endpoint name.text verb = String.ofList (client.baseUrl.scheme.toList ++ ':' :: '/' :: '/' ::
      (client.baseUrl.authorityText host ++ '/' ::
        endpointPath (segmentsAbove (segments.map String.toList)) a (segmentsBelow b c d verb))) := by
  have last : ((client.baseUrl.scheme.toList ++ [':', '/', '/']) ++
      client.baseUrl.authorityText host).getLast? ≠ some '/' := by
    rw [List.getLast?_append, List.getLast?_eq_some_getLast normal.authority_nonempty, Option.some_or]
    intro slash
    have member := List.getLast_mem normal.authority_nonempty
    exact (normal.authority_inert _ member).2.1 (Option.some.inj slash)
  have free : ∀ segment ∈ segments.map String.toList, '/' ∉ segment := by
    rw [List.forall_mem_map]
    exact fun segment member => (normal.steady segment member).slash
  have base : client.baseUrl.write = String.ofList
      ((client.baseUrl.scheme.toList ++ [':', '/', '/']) ++ client.baseUrl.authorityText host ++
        Url.slashed (segments.map String.toList)) := by
    rw [← String.toList_inj, normal.written query fragment, String.toList_ofList]
    simp
  have above (behind : List Char) :
      '/' :: (List.intercalate ['/'] (segmentsAbove (segments.map String.toList)) ++ behind) =
        Url.slashed (Url.withoutEndEmpty (segments.map String.toList)) ++
          ("/v1/projects".toList ++ behind) := by
    rw [← List.cons_append, ← Url.slashed_eq_join (by simp [segmentsAbove]), segmentsAbove,
      Url.slashed_append, List.append_assoc]
    rfl
  have below : '/' :: List.intercalate ['/'] (segmentsBelow b c d verb) =
      "/locations/".toList ++ (b ++ ("/keyRings/".toList ++ (c ++ ("/cryptoKeys/".toList ++
        (d ++ ':' :: verb.word.toList))))) := by
    rw [segmentsBelow, ← Url.slashed_eq_join (List.cons_ne_nil _ _)]
    simp [Url.slashed]
  rw [Client.endpoint, base, Url.without_end_slashes last free, ← String.toList_inj]
  simp only [String.toList_append, String.toList_ofList, named, KeyGrammar.join_pieces]
  rw [endpointPath, below, above]
  simp

end

theorem steady_above {segments : List String} (steady : ∀ segment ∈ segments, Steady segment.toList) :
    ∀ segment ∈ segmentsAbove (segments.map String.toList), Steady segment := by
  have kept : Url.withoutEndEmpty (segments.map String.toList) ⊆ segments.map String.toList := by
    intro segment member
    have suffix := List.dropWhile_suffix (l := (segments.map String.toList).reverse) List.isEmpty
    exact List.mem_reverse.mp (suffix.subset (List.mem_reverse.mp member))
  intro segment member
  simp only [segmentsAbove, List.mem_append, List.mem_cons, List.not_mem_nil, or_false] at member
  obtain inBase | rfl | rfl := member
  · exact List.forall_mem_map.mpr steady segment (kept inBase)
  · exact steady_word (forall_of_all (by decide))
  · exact steady_word (forall_of_all (by decide))

section

variable {b c d : List Char} (location : KeyGrammar.word.Describes b)
  (keyRing : KeyGrammar.word.Describes c) (key : KeyGrammar.word.Describes d)

include location keyRing key in
theorem words_below (verb : Verb) :
    ∀ segment ∈ segmentsBelow b c d verb, ∀ c ∈ segment, CharClass.isWord c = true ∨ c = ':' := by
  have fixed : ∀ segment ∈ ["locations".toList, "keyRings".toList, "cryptoKeys".toList],
      ∀ c ∈ segment, CharClass.isWord c = true := by
    rw [List.forall_mem_cons, List.forall_mem_cons, List.forall_mem_singleton]
    exact ⟨forall_of_all (by decide), forall_of_all (by decide), forall_of_all (by decide)⟩
  have verbs : ∀ c ∈ verb.word.toList, CharClass.isWord c = true := by
    cases verb with
    | encrypt => exact forall_of_all (by decide)
    | decrypt => exact forall_of_all (by decide)
  intro segment member x within
  simp only [segmentsBelow, List.mem_cons, List.not_mem_nil, or_false] at member
  obtain rfl | rfl | rfl | rfl | rfl | rfl := member
  · exact .inl (fixed _ (by simp) x within)
  · exact .inl (location.2.2 x within)
  · exact .inl (fixed _ (by simp) x within)
  · exact .inl (keyRing.2.2 x within)
  · exact .inl (fixed _ (by simp) x within)
  · rw [List.mem_append, List.mem_cons] at within
    obtain inKey | colon | inVerb := within
    · exact .inl (key.2.2 x inKey)
    · exact .inr colon
    · exact .inl (verbs x inVerb)

include location keyRing key in
theorem steady_below (verb : Verb) : ∀ segment ∈ segmentsBelow b c d verb, Steady segment :=
  fun segment member => steady_word (words_below location keyRing key verb segment member)

include location keyRing key in
theorem octets_below (verb : Verb) :
    (segmentsBelow b c d verb).map Url.octets = (segmentsBelow b c d verb).map Utf8.encode := by
  apply List.map_congr_left
  intro segment member
  apply Url.octets_of_free
  intro percent
  cases words_below location keyRing key verb segment member '%' percent with
  | inl word => cases word
  | inr colon => cases colon

end

theorem octets_above {segments : List String} (free : ∀ segment ∈ segments, '/' ∉ segment.toList) :
    (segmentsAbove (segments.map String.toList)).map Url.octets =
      Url.withoutEndEmpty (Url.Path.segments segments).parts ++
        [Utf8.encode "v1".toList, Utf8.encode "projects".toList] := by
  rw [Url.parts_segments free, segmentsAbove, List.map_append, ← Url.octets_without_end_empty,
    List.map_map, List.map_cons, List.map_cons, List.map_nil, Url.octets_of_free (by decide),
    Url.octets_of_free (by decide)]
  rfl

section

variable {above below : List (List Char)} (steadyAbove : ∀ segment ∈ above, Steady segment)
  (steadyBelow : ∀ segment ∈ below, Steady segment)

include steadyAbove steadyBelow in
theorem mem_endpoint_path {project : List Char} {c : Char}
    (member : c ∈ endpointPath above project below) : c ∈ project ∨ c = '/' ∨ Inert c := by
  simp only [endpointPath, List.mem_append, List.mem_cons] at member
  obtain before | slash | inProject | slash | behind := member
  · exact .inr (Url.mem_join_steady steadyAbove before)
  · exact .inr (.inl slash)
  · exact .inl inProject
  · exact .inr (.inl slash)
  · exact .inr (Url.mem_join_steady steadyBelow behind)

include steadyBelow in
theorem endpoint_path_last (project : List Char) :
    ∀ c ∈ (endpointPath above project below).getLast?, 0x20 < c.toNat := by
  intro c last
  have final : c ∈ '/' :: List.intercalate ['/'] below := by
    rw [endpointPath, ← List.cons_append, ← List.append_assoc, List.getLast?_append,
      List.getLast?_eq_some_getLast (List.cons_ne_nil _ _), Option.some_or] at last
    rw [← Option.some.inj last]
    exact List.getLast_mem _
  cases List.mem_cons.mp final with
  | inl slash =>
      rw [slash]
      decide
  | inr within =>
      obtain rfl | inert := Url.mem_join_steady steadyBelow within
      · decide
      · exact inert.1

include steadyAbove steadyBelow in
theorem endpoint_path_counts (project : List Char) :
    (endpointPath above project below).filter counts =
      endpointPath above (project.filter counts) below := by
  have slash : counts '/' = true := by decide
  have kept {segments : List (List Char)} (steady : ∀ segment ∈ segments, Steady segment) :
      (List.intercalate ['/'] segments).filter counts = List.intercalate ['/'] segments := by
    apply List.filter_eq_self.mpr
    intro c member
    obtain rfl | inert := Url.mem_join_steady steady member
    · exact slash
    · exact counts_of_inert inert
  rw [endpointPath, List.filter_append, kept steadyAbove, List.filter_cons_of_pos slash,
    List.filter_append, List.filter_cons_of_pos slash, kept steadyBelow, endpointPath]

include steadyAbove steadyBelow in
theorem endpoint_path_ends (project : List Char) :
    (∀ c ∈ endpointPath above project below, endsPath c = false) ↔
      ∀ c ∈ project, endsPath c = false := by
  constructor
  · intro none c member
    apply none
    simp only [endpointPath, List.mem_append, List.mem_cons]
    exact .inr (.inr (.inl member))
  · intro none c member
    obtain inProject | rfl | inert := mem_endpoint_path steadyAbove steadyBelow member
    · exact none c inProject
    · decide
    · obtain ⟨-, -, -, question, hash⟩ := inert
      simp [endsPath, question, hash]

end

section

variable {client : Client} (reads : Url.parse? client.baseUrl.write = some client.baseUrl)
  {host : Url.Host} {segments : List String} (normal : client.baseUrl.Normal host segments)
  (query : client.baseUrl.query = none) (fragment : client.baseUrl.fragment = none)
  {name : KeyName .key} {a b c d : List Char}
  (named : name.text.toList = List.intercalate ['/'] (KeyGrammar.pieces a b c d))
  (location : KeyGrammar.word.Describes b) (keyRing : KeyGrammar.word.Describes c)
  (key : KeyGrammar.word.Describes d)

include reads normal query fragment named location keyRing key in
theorem endpoint_read (verb : Verb) :
    let path := endpointPath (segmentsAbove (segments.map String.toList)) (a.filter counts)
      (segmentsBelow b c d verb)
    ∃ username password, Url.parse? (client.endpoint name.text verb) = some {
      scheme := client.baseUrl.scheme
      username
      password
      host := client.baseUrl.host
      port := client.baseUrl.port
      path := .segments (Url.Parser.segments true (path.takeWhile (!endsPath ·)))
      query := (tail true (path.dropWhile (!endsPath ·))).1
      fragment := (tail true (path.dropWhile (!endsPath ·))).2 } := by
  intro path
  have steadyAbove := steady_above normal.steady
  have steadyBelow := steady_below location keyRing key verb
  obtain ⟨parts, read, sameHost, samePort⟩ := normal.authority_read reads query fragment
  rw [endpoint_text normal query fragment named verb,
    parse_http normal.http normal.authority_nonempty normal.authority_inert
      (endpoint_path_last steadyBelow a),
    hierarchy_http normal.authority_inert, read, endpoint_path_counts steadyAbove steadyBelow a,
    Option.map_some, sameHost, samePort]
  exact ⟨_, _, rfl⟩

include named location keyRing key in
theorem split_asked (slash : '/' ∉ a) (verb : Verb) :
    List.splitOn '/' (name.text.toList ++ ':' :: verb.word.toList) =
      "projects".toList :: a :: segmentsBelow b c d verb := by
  have joined : name.text.toList ++ ':' :: verb.word.toList =
      List.intercalate ['/'] ("projects".toList :: a :: segmentsBelow b c d verb) := by
    rw [named, KeyGrammar.join_pieces]
    simp [segmentsBelow, List.intercalate]
  rw [joined]
  apply List.splitOn_intercalate _ _ (List.cons_ne_nil _ _)
  rw [List.forall_mem_cons, List.forall_mem_cons]
  exact ⟨by decide, slash, fun segment member =>
    (steady_below location keyRing key verb segment member).slash⟩

include normal named location keyRing key in
theorem asked_parts (slash : '/' ∉ a) (verb : Verb) :
    Url.withoutEndEmpty client.baseUrl.path.parts ++ Utf8.encode "v1".toList ::
        (List.splitOn '/' (name.text.toList ++ ':' :: verb.word.toList)).map Utf8.encode =
      (segmentsAbove (segments.map String.toList)).map Url.octets ++
        Utf8.encode a :: (segmentsBelow b c d verb).map Url.octets := by
  have free : ∀ segment ∈ segments, '/' ∉ segment.toList := fun segment member =>
    (normal.steady segment member).slash
  rw [normal.path, octets_above free, octets_below location keyRing key,
    split_asked named location keyRing key slash verb, List.append_assoc]
  rfl

include reads normal query fragment named location keyRing key in
theorem addressed_iff (slash : '/' ∉ a) (verb : Verb) :
    ∃ url, Url.parse? (client.endpoint name.text verb) = some url ∧ url.isHttp = true ∧
      url.scheme = client.baseUrl.scheme ∧ url.host = client.baseUrl.host ∧
      url.port = client.baseUrl.port ∧
      (Addresses url client.baseUrl name verb ↔ Literal a) := by
  obtain ⟨username, password, read⟩ :=
    endpoint_read reads normal query fragment named location keyRing key verb
  have steadyAbove := steady_above normal.steady
  have steadyBelow := steady_below location keyRing key verb
  have http := normal.http
  have parts (text : List Char) :
      (Url.Path.segments (Url.Parser.segments true text)).parts =
        (Url.Parser.segments true text).map fun segment => Url.octets segment.toList :=
    Url.parts_segments fun segment member => ((segments_steady text).2 segment member).slash
  have asked := asked_parts normal named location keyRing key slash verb
  have whole {path : List Char} (inPath : ∀ c ∈ path, endsPath c = false) :
      path.takeWhile (!endsPath ·) = path := by
    have passed : ∀ c ∈ path, (!endsPath c) = true := fun c member => by rw [inPath c member]; rfl
    rw [← List.append_nil path, List.takeWhile_append_of_pos passed, List.takeWhile_nil]
  refine ⟨_, read, by simpa [Url.isHttp] using http, rfl, rfl, rfl, ?_⟩
  constructor
  · intro addresses
    have inPath : ∀ x ∈ endpointPath (segmentsAbove (segments.map String.toList)) (a.filter counts)
        (segmentsBelow b c d verb), endsPath x = false :=
      (tail_none_iff _).mp (Prod.ext addresses.query addresses.fragment)
    have inProject :=
      (ends_counted_iff a).mp ((endpoint_path_ends steadyAbove steadyBelow _).mp inPath)
    have path := addresses.path
    rw [whole inPath, parts, asked] at path
    exact literal_of_octets (by simp [segmentsAbove]) (List.cons_ne_nil _ _) steadyAbove steadyBelow
      slash inProject path
  · intro literal
    have inProject : ∀ x ∈ a, endsPath x = false := by
      intro x member
      have apart := literal.marks x member
      simp only [List.mem_cons, not_or] at apart
      simp [endsPath, apart]
    have inPath := (endpoint_path_ends steadyAbove steadyBelow _).mpr ((ends_counted_iff a).mpr inProject)
    have none := (tail_none_iff _).mpr inPath
    refine ⟨rfl, rfl, rfl, ?_, congrArg Prod.fst none, congrArg Prod.snd none⟩
    rw [whole inPath, parts, asked]
    exact octets_of_literal (by simp [segmentsAbove]) (List.cons_ne_nil _ _) steadyAbove steadyBelow
      literal

end

theorem length_word (verb : Verb) : verb.word.toList.length = 7 := by
  cases verb with
  | encrypt => decide
  | decrypt => decide

theorem word_injective {verb other : Verb} (same : verb.word = other.word) : verb = other := by
  cases verb with
  | encrypt =>
      cases other with
      | encrypt => rfl
      | decrypt => exact absurd same (by decide)
  | decrypt =>
      cases other with
      | encrypt => exact absurd same (by decide)
      | decrypt => rfl

-- An address holds the name and the verb, so it tells keys and verbs apart.
theorem address_determines {url base : Url} {name other : KeyName .key} {verb verb' : Verb}
    (addresses : Addresses url base name verb) (addresses' : Addresses url base other verb') :
    name = other ∧ verb = verb' := by
  have parts := addresses.path.symm.trans addresses'.path
  have encoded := (List.cons.inj (List.append_cancel_left parts)).2
  have pieces : List.splitOn '/' (name.text.toList ++ ':' :: verb.word.toList) =
      List.splitOn '/' (other.text.toList ++ ':' :: verb'.word.toList) :=
    List.map_inj_right (fun _ _ => Utf8.encode_injective) |>.mp encoded
  have texts := congrArg (List.intercalate ['/']) pieces
  rw [List.intercalate_splitOn, List.intercalate_splitOn] at texts
  have lengths : (':' :: verb.word.toList).length = (':' :: verb'.word.toList).length := by
    rw [List.length_cons, List.length_cons, length_word, length_word]
  obtain ⟨sameText, sameWord⟩ := List.append_inj' texts lengths
  exact ⟨KeyName.eq_of_text (String.toList_inj.mp sameText),
    word_injective (String.toList_inj.mp (List.cons.inj sameWord).2)⟩

theorem requests_address (client : Client)
    (reads : Url.parse? client.baseUrl.write = some client.baseUrl)
    (http : client.baseUrl.isHttp = true) (query : client.baseUrl.query = none)
    (fragment : client.baseUrl.fragment = none) :
    (∀ (name : KeyName .key) (verb : Verb) (sent : Wire.Request verb), ∃ request,
      client.request? ⟨verb, name.text, sent⟩ = some request ∧
      request.url.scheme = client.baseUrl.scheme ∧ request.url.host = client.baseUrl.host ∧
      request.url.port = client.baseUrl.port ∧
      (Addresses request.url client.baseUrl name verb ↔ Literal name.project)) ∧
    ∀ (name other : KeyName .key), Literal name.project → Literal other.project →
      ∀ (verb verb' : Verb) (sent : Wire.Request verb) (sent' : Wire.Request verb')
        (request request' : Request),
        client.request? ⟨verb, name.text, sent⟩ = some request →
        client.request? ⟨verb', other.text, sent'⟩ = some request' →
        request.url = request'.url → name = other ∧ verb = verb' := by
  have address (name : KeyName .key) (verb : Verb) (sent : Wire.Request verb) : ∃ request,
      client.request? ⟨verb, name.text, sent⟩ = some request ∧
      request.url.scheme = client.baseUrl.scheme ∧ request.url.host = client.baseUrl.host ∧
      request.url.port = client.baseUrl.port ∧
      (Addresses request.url client.baseUrl name verb ↔ Literal name.project) := by
    obtain ⟨host, segments, normal⟩ := Url.normal_of_parse reads http
    obtain ⟨a, b, c, d, named, inProject, location, keyRing, key⟩ :=
      (KeyGrammar.accepts_key_iff name.text).mp name.accepted
    obtain ⟨url, read, served, scheme, sameHost, port, addressed⟩ :=
      addressed_iff reads normal query fragment named location keyRing key
        (KeyGrammar.segment_has_no_slash inProject) verb
    obtain ⟨request, posted, sameUrl⟩ := client.request_of_url sent read served
    have project : name.project = a := by
      rw [KeyName.project, named, KeyGrammar.split_pieces inProject (KeyGrammar.word_is_segment location)
        (KeyGrammar.word_is_segment keyRing) (KeyGrammar.word_is_segment key)]
      rfl
    obtain ⟨username, password, away⟩ := Client.destination_eq url
    rw [project]
    refine ⟨request, posted, ?_⟩
    rw [sameUrl, away, addresses_with_userinfo]
    exact ⟨scheme, sameHost, port, addressed⟩
  refine ⟨address, ?_⟩
  intro name other literal literal' verb verb' sent sent' request request' posted posted' sameUrl
  obtain ⟨_, given, -, -, -, addressed⟩ := address name verb sent
  obtain ⟨_, given', -, -, -, addressed'⟩ := address other verb' sent'
  cases posted.symm.trans given
  cases posted'.symm.trans given'
  exact address_determines (addressed.mpr literal) (sameUrl ▸ addressed'.mpr literal')

def namedIn (project : String) : String :=
  "projects/" ++ project ++ "/locations/l/keyRings/r/cryptoKeys/k"

def spaced : KeyName .key := ⟨namedIn "a b:\xe9", by decide +kernel⟩

def marked : KeyName .key := ⟨namedIn "p?q", by decide +kernel⟩

def tabbed : KeyName .key := ⟨namedIn "a\tb", by decide +kernel⟩

def untabbed : KeyName .key := ⟨namedIn "ab", by decide +kernel⟩

def sampleRequest : Wire.Request .decrypt where
  payload := some [7]
  payloadChecksum := some (.of [7])
  associatedData := some []
  associatedDataChecksum := some (.of [])

theorem literal_project_addressed :
    let client : Client := ⟨sampleConfig.baseUrl, sampleConfig.token⟩
    Url.parse? client.baseUrl.write = some client.baseUrl ∧ Literal spaced.project ∧
      ∃ request, client.request? ⟨.decrypt, spaced.text, sampleRequest⟩ = some request ∧
        Addresses request.url client.baseUrl spaced .decrypt := by
  intro client
  have reads : Url.parse? client.baseUrl.write = some client.baseUrl := by decide +kernel
  have literal : Literal spaced.project := {
    marks := forall_of_all (by decide +kernel)
    octets := by decide +kernel
    point := by decide +kernel
    points := by decide +kernel }
  obtain ⟨address, -⟩ := requests_address client reads rfl rfl rfl
  obtain ⟨request, posted, -, -, -, addressed⟩ := address spaced .decrypt sampleRequest
  exact ⟨reads, literal, request, posted, addressed.mpr literal⟩

-- A question mark cuts the name in two, and a tab is left out of it.
theorem marked_project_misaddressed :
    let client : Client := ⟨sampleConfig.baseUrl, sampleConfig.token⟩
    let request? (name : KeyName .key) : Option Request :=
      client.request? ⟨.decrypt, name.text, sampleRequest⟩
    Url.parse? client.baseUrl.write = some client.baseUrl ∧ client.baseUrl.isHttp = true ∧
      client.baseUrl.query = none ∧ client.baseUrl.fragment = none ∧
      (∃ request, request? marked = some request ∧
        ¬Addresses request.url client.baseUrl marked .decrypt) ∧
      tabbed ≠ untabbed ∧
      ∃ request, request? tabbed = some request ∧ request? untabbed = some request := by
  intro client request?
  refine ⟨by decide +kernel, rfl, rfl, rfl, ?_, by decide, ?_⟩
  · have cut : ∃ url, Url.parse? (client.endpoint marked.text .decrypt) = some url ∧
        (url.isHttp && url.query.isSome) = true := by
      apply (Option.any_eq_true _ _).mp
      decide +kernel
    obtain ⟨url, read, found⟩ := cut
    obtain ⟨http, some⟩ := Bool.and_eq_true_iff.mp found
    obtain ⟨request, posted, sameUrl⟩ := client.request_of_url _ read http
    refine ⟨request, posted, ?_⟩
    intro addresses
    obtain ⟨username, password, away⟩ := Client.destination_eq url
    rw [sameUrl, away, addresses_with_userinfo] at addresses
    rw [addresses.query] at some
    cases some
  · have same : Url.parse? (client.endpoint tabbed.text .decrypt) =
        Url.parse? (client.endpoint untabbed.text .decrypt) := by
      decide +kernel
    have read : ∃ url, Url.parse? (client.endpoint untabbed.text .decrypt) = some url ∧
        url.isHttp = true := by
      apply (Option.any_eq_true _ _).mp
      decide +kernel
    obtain ⟨url, read, http⟩ := read
    obtain ⟨request, posted, -⟩ := client.request_of_url _ read http
    exact ⟨request, (client.request_of_same_url sampleRequest same).trans posted, posted⟩

end Http
end KeyCustody
