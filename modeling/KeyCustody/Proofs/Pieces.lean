set_option autoImplicit false

namespace KeyCustody.Pieces

variable {separator : Char}

theorem intercalate_append {front back : List (List Char)} (some : front ≠ []) (more : back ≠ []) :
    List.intercalate [separator] (front ++ back) =
      List.intercalate [separator] front ++ separator :: List.intercalate [separator] back := by
  induction front with
  | nil => exact absurd rfl some
  | cons piece rest ih =>
      cases rest with
      | nil => simp [List.intercalate_cons_of_ne_nil more]
      | cons next rest =>
          rw [List.cons_append, List.cons_append, List.intercalate_cons_cons, ← List.cons_append,
            ih (List.cons_ne_nil next rest), List.intercalate_cons_cons]
          simp only [List.append_assoc]

theorem split_cons (separator c : Char) (s : List Char) :
    c = separator ∧ (c :: s).splitOn separator = [] :: s.splitOn separator ∨
      c ≠ separator ∧ ∃ piece rest, s.splitOn separator = piece :: rest ∧
        (c :: s).splitOn separator = (c :: piece) :: rest := by
  rw [List.splitOn_cons_eq_if_modifyHead]
  by_cases same : c = separator
  · exact .inl ⟨same, if_pos (beq_iff_eq.mpr same)⟩
  · obtain ⟨piece, rest, cut⟩ := List.exists_cons_of_ne_nil (List.splitOn_ne_nil separator s)
    refine .inr ⟨same, piece, rest, cut, ?_⟩
    rw [if_neg (mt beq_iff_eq.mp same), cut]
    rfl

theorem separator_free (s : List Char) : ∀ piece ∈ s.splitOn separator, separator ∉ piece := by
  induction s with
  | nil => simp
  | cons c s ih =>
      obtain ⟨-, parts⟩ | ⟨apart, piece, rest, cut, parts⟩ := split_cons separator c s
      · rw [parts]
        exact List.forall_mem_cons.mpr ⟨List.not_mem_nil, ih⟩
      · rw [cut] at ih
        rw [parts]
        obtain ⟨first, later⟩ := List.forall_mem_cons.mp ih
        exact List.forall_mem_cons.mpr ⟨List.not_mem_cons_of_ne_of_not_mem (Ne.symm apart) first, later⟩

theorem piece_sublist (s : List Char) : ∀ piece ∈ s.splitOn separator, List.Sublist piece s := by
  induction s with
  | nil => simp
  | cons c s ih =>
      obtain ⟨-, parts⟩ | ⟨-, piece, rest, cut, parts⟩ := split_cons separator c s
      · rw [parts]
        exact List.forall_mem_cons.mpr ⟨List.nil_sublist _, fun piece mem => (ih piece mem).cons c⟩
      · rw [cut] at ih
        rw [parts]
        obtain ⟨first, later⟩ := List.forall_mem_cons.mp ih
        exact List.forall_mem_cons.mpr ⟨first.cons_cons c, fun piece mem => (later piece mem).cons c⟩

theorem length_split (s : List Char) : (s.splitOn separator).length = s.count separator + 1 := by
  induction s with
  | nil => simp
  | cons c s ih =>
      obtain ⟨rfl, parts⟩ | ⟨apart, piece, rest, cut, parts⟩ := split_cons separator c s
      · rw [parts, List.length_cons, ih, List.count_cons_self]
      · rw [cut] at ih
        rw [parts, List.count_cons_of_ne apart, ← ih, List.length_cons, List.length_cons]

end KeyCustody.Pieces
