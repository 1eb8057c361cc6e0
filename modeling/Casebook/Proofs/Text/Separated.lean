import Casebook.Text.Basic

/-! # Separated pieces

    `Text.joinWith` writes pieces with a separator between them and `Text.split`
    reads them back.  Reading is possible when no piece contains the character
    that the separator starts with:

    * `split_joinWith` reads pieces that are joined by one character;
    * `joinWith_inj` says that joined pieces are determined by their text, also
      for a separator of several characters, as long as no piece is empty.
-/

namespace Casebook.Text

@[simp] theorem joinWith_nil (separator : Text) : joinWith separator [] = [] := rfl

@[simp] theorem joinWith_singleton (separator piece : Text) :
    joinWith separator [piece] = piece :=
  List.intercalate_singleton

theorem joinWith_cons_cons (separator piece next : Text) (pieces : List Text) :
    joinWith separator (piece :: next :: pieces) =
      piece ++ separator ++ joinWith separator (next :: pieces) :=
  List.intercalate_cons_cons

/-- A character behind every separator is one in front of every piece. -/
theorem cons_joinWith (separator : Text) (c : Char) {pieces : List Text} (h : pieces ≠ []) :
    c :: joinWith (separator ++ [c]) pieces = joinWith separator (pieces.map (c :: ·)) := by
  induction pieces with
  | nil => exact absurd rfl h
  | cons piece rest ih =>
    cases rest with
    | nil => rfl
    | cons next rest =>
      rw [List.map_cons, List.map_cons, joinWith_cons_cons, joinWith_cons_cons, ← List.map_cons,
        ← ih (by simp)]
      simp only [List.append_assoc, List.cons_append, List.nil_append]

/-- A character of a joined text comes from the separator or from a piece. -/
theorem mem_joinWith {separator : Text} {pieces : List Text} {c : Char}
    (h : c ∈ joinWith separator pieces) : c ∈ separator ∨ ∃ piece ∈ pieces, c ∈ piece := by
  induction pieces with
  | nil => simp at h
  | cons piece rest ih =>
    cases rest with
    | nil => exact Or.inr ⟨piece, by simp, by simpa using h⟩
    | cons next rest =>
      rw [joinWith_cons_cons, List.mem_append, List.mem_append] at h
      rcases h with (h | h) | h
      · exact Or.inr ⟨piece, by simp, h⟩
      · exact Or.inl h
      · rcases ih h with h | ⟨found, hmem, h⟩
        · exact Or.inl h
        · exact Or.inr ⟨found, List.mem_cons_of_mem _ hmem, h⟩

/-- The characters of a piece stand in the joined text. -/
theorem mem_joinWith_of_mem {separator piece : Text} {pieces : List Text} {c : Char}
    (h : piece ∈ pieces) (hc : c ∈ piece) : c ∈ joinWith separator pieces := by
  induction pieces with
  | nil => cases h
  | cons first rest ih =>
    cases rest with
    | nil =>
      obtain rfl := List.mem_singleton.1 h
      rwa [joinWith_singleton]
    | cons next rest =>
      rw [joinWith_cons_cons, List.mem_append, List.mem_append]
      rcases List.mem_cons.1 h with rfl | h
      · exact Or.inl (Or.inl hc)
      · exact Or.inr (ih h)

/-- Joining pieces of which none is empty gives an empty text only for no pieces. -/
theorem joinWith_eq_nil {separator : Text} {pieces : List Text} (hne : ∀ piece ∈ pieces, piece ≠ [])
    (h : joinWith separator pieces = []) : pieces = [] := by
  cases pieces with
  | nil => rfl
  | cons piece rest =>
    have hpiece : piece ≠ [] := hne piece (by simp)
    cases rest with
    | nil => exact absurd (by simpa using h) hpiece
    | cons next rest =>
      rw [joinWith_cons_cons, List.append_assoc, List.append_eq_nil_iff] at h
      exact absurd h.1 hpiece

/-- No piece of a split contains the character that the text was split at. -/
theorem not_mem_of_mem_split {separator : Char} {text piece : Text}
    (h : piece ∈ split separator text) : separator ∉ piece := by
  induction text generalizing piece with
  | nil => simp_all [split]
  | cons c rest ih =>
    obtain ⟨first, others, hrest⟩ := List.exists_cons_of_ne_nil (List.splitOn_ne_nil separator rest)
    rw [split, List.splitOn_cons_eq_if_modifyHead, hrest] at h
    rw [split, hrest] at ih
    by_cases hc : c = separator
    · -- A new, empty piece stands before those of the rest.
      rw [if_pos (by simpa using hc)] at h
      rcases List.mem_cons.1 h with rfl | h
      · simp
      · exact ih h
    · -- The character is put in front of the first piece of the rest.
      rw [if_neg (by simpa using hc), List.modifyHead_cons] at h
      rcases List.mem_cons.1 h with rfl | h
      · have hfirst : separator ∉ first := ih (by simp)
        simp [Ne.symm hc, hfirst]
      · exact ih (List.mem_cons_of_mem _ h)

/-- Splitting cuts a text at each occurrence of the character. -/
theorem split_append_cons (separator : Char) (front back : Text) :
    split separator (front ++ separator :: back) = split separator front ++ split separator back :=
  List.splitOnP_append_cons front back (beq_self_eq_true separator)

/-- Another character is put in front of the first piece. -/
theorem split_cons_of_ne {c separator : Char} (hc : c ≠ separator) {text first : Text}
    {rest : List Text} (h : split separator text = first :: rest) :
    split separator (c :: text) = (c :: first) :: rest := by
  unfold split at h ⊢
  rw [List.splitOn_cons_eq_if_modifyHead, if_neg (by simpa using hc), h]
  rfl

theorem exists_split_eq_cons (separator : Char) (text : Text) :
    ∃ first rest, split separator text = first :: rest :=
  List.exists_cons_of_ne_nil (List.splitOn_ne_nil separator text)

/-- A further character is one of the last piece, unless the text is cut at it. -/
theorem split_concat {separator c : Char} (hc : c ≠ separator) (text : Text) :
    ∃ front last, split separator text = front ++ [last] ∧
      split separator (text ++ [c]) = front ++ [last ++ [c]] := by
  induction text with
  | nil => exact ⟨[], [], rfl, split_cons_of_ne hc rfl⟩
  | cons d text ih =>
    obtain ⟨front, last, htext, hmore⟩ := ih
    by_cases hd : d = separator
    · subst hd
      have hcut (back : Text) : split d (d :: back) = [] :: split d back :=
        split_append_cons d [] back
      refine ⟨[] :: front, last, ?_, ?_⟩
      · rw [hcut, htext, List.cons_append]
      · rw [List.cons_append, hcut, hmore, List.cons_append]
    · cases front with
      | nil => exact ⟨[], d :: last, split_cons_of_ne hd htext, split_cons_of_ne hd hmore⟩
      | cons piece front =>
        exact ⟨(d :: piece) :: front, last, split_cons_of_ne hd htext, split_cons_of_ne hd hmore⟩

/-- The pieces of a split give the text back. -/
theorem joinWith_split (separator : Char) (text : Text) :
    joinWith [separator] (split separator text) = text :=
  List.intercalate_splitOn separator

/-- Every piece but the first stands behind a separator. -/
theorem exists_joinWith_eq_of_mem {separator first piece : Text} {rest : List Text}
    (h : piece ∈ rest) :
    ∃ front back, joinWith separator (first :: rest) = front ++ separator ++ (piece ++ back) := by
  induction rest generalizing first with
  | nil => cases h
  | cons next rest ih =>
    rw [joinWith_cons_cons]
    rcases List.mem_cons.1 h with rfl | h
    · -- The piece is the next one, and what follows it depends on whether it is the last.
      cases rest with
      | nil => exact ⟨first, [], by simp⟩
      | cons next rest =>
        refine ⟨first, separator ++ joinWith separator (next :: rest), ?_⟩
        rw [joinWith_cons_cons, List.append_assoc, List.append_assoc, List.append_assoc]
    · obtain ⟨front, back, hrest⟩ := ih h
      refine ⟨first ++ separator ++ front, back, ?_⟩
      rw [hrest]
      simp only [List.append_assoc]

/-- Every piece of a split but the first stands behind the character. -/
theorem exists_eq_of_mem_tail_split {separator : Char} {text piece : Text}
    (h : piece ∈ (split separator text).tail) :
    ∃ front back, text = front ++ separator :: (piece ++ back) := by
  obtain ⟨first, rest, hsplit⟩ := exists_split_eq_cons separator text
  rw [hsplit, List.tail_cons] at h
  have hrest : ∃ front back,
      joinWith [separator] (first :: rest) = front ++ [separator] ++ (piece ++ back) :=
    exists_joinWith_eq_of_mem h
  obtain ⟨front, back, hjoin⟩ := hrest
  refine ⟨front, back, ?_⟩
  rw [← joinWith_split separator text, hsplit, hjoin, List.append_assoc, List.singleton_append]

/-- Pieces joined by a character that is in none of them are read back. -/
theorem split_joinWith {separator : Char} {pieces : List Text} (hne : pieces ≠ [])
    (h : ∀ piece ∈ pieces, separator ∉ piece) :
    split separator (joinWith [separator] pieces) = pieces :=
  List.splitOn_intercalate separator h hne

/-- The first occurrence of a character cuts a text in one way only. -/
theorem append_cons_inj {c : Char} {front back front' back' : Text} (hfront : c ∉ front)
    (hfront' : c ∉ front') (h : front ++ c :: back = front' ++ c :: back') :
    front = front' ∧ back = back' := by
  rcases List.append_eq_append_iff.1 h with ⟨middle, rfl, hback⟩ | ⟨middle, rfl, hback⟩
  · cases middle with
    | nil => simpa using hback
    | cons d middle =>
      -- Something between the fronts would begin with the character itself.
      obtain ⟨rfl, -⟩ := List.cons.inj hback
      simp at hfront'
  · cases middle with
    | nil => simpa using hback.symm
    | cons d middle =>
      obtain ⟨rfl, -⟩ := List.cons.inj hback
      simp at hfront

/-- A joined text determines its pieces when none of them is empty and none
    contains the first character of the separator. -/
theorem joinWith_inj {c : Char} {separator : Text} {pieces others : List Text}
    (hpieces : ∀ piece ∈ pieces, piece ≠ [] ∧ c ∉ piece)
    (hothers : ∀ piece ∈ others, piece ≠ [] ∧ c ∉ piece)
    (h : joinWith (c :: separator) pieces = joinWith (c :: separator) others) :
    pieces = others := by
  induction pieces generalizing others with
  | nil =>
    have hne : ∀ other ∈ others, other ≠ [] := by
      intro other hmem
      exact (hothers other hmem).1
    exact (joinWith_eq_nil hne h.symm).symm
  | cons piece rest ih =>
    cases others with
    | nil =>
      have hne : ∀ other ∈ piece :: rest, other ≠ [] := by
        intro other hmem
        exact (hpieces other hmem).1
      exact joinWith_eq_nil hne h
    | cons other others =>
      have hpiece : c ∉ piece := (hpieces piece (by simp)).2
      have hother : c ∉ other := (hothers other (by simp)).2
      -- The first separator stands at the same place, or nowhere, on both sides.
      cases rest with
      | nil =>
        cases others with
        | nil => simpa using h
        | cons next others =>
          rw [joinWith_singleton, joinWith_cons_cons] at h
          exact absurd (h ▸ by simp) hpiece
      | cons next rest =>
        cases others with
        | nil =>
          rw [joinWith_singleton, joinWith_cons_cons] at h
          exact absurd (h ▸ by simp) hother
        | cons next' others =>
          rw [joinWith_cons_cons, joinWith_cons_cons, List.append_assoc, List.append_assoc,
            List.cons_append, List.cons_append] at h
          obtain ⟨hfirst, htail⟩ := append_cons_inj hpiece hother h
          have hrest : next :: rest = next' :: others := by
            apply ih
            · intro later hmem
              exact hpieces later (List.mem_cons_of_mem piece hmem)
            · intro later hmem
              exact hothers later (List.mem_cons_of_mem other hmem)
            · exact List.append_cancel_left htail
          rw [hfirst, hrest]

end Casebook.Text
