import Casebook.Text.Reference
import Casebook.Proofs.Text.Characters
import Casebook.Proofs.Text.Spacing
import Mathlib.Data.List.Basic

/-! # References

    Which references a text has, and what becomes of them when files are
    embedded.

    * `reference?_eq_some_iff` says what it means that a text starts with a
      reference, and `pieces_eq_iff` what it means that a list of pieces is the
      cut of a text: each plain character is one at which no reference starts.
    * Embedding changes only the insides of references, so the cut of the
      embedded text is the embedded cut (`pieces_embedFiles`), and a second
      embedding changes nothing (`embedFiles_embedFiles`).
    * Embedding does not look at blanks: it commutes with collapsing, trimming
      and squeezing (`embedFiles_squeeze`).
-/

namespace Casebook.Text

/-- The brace that opens references. -/
abbrev openBrace : Char := '\x7b'

/-- The brace that closes references. -/
abbrev closeBrace : Char := '\x7d'

@[simp] theorem isBlank_openBrace : isBlank openBrace = false := by decide

@[simp] theorem isBlank_closeBrace : isBlank closeBrace = false := by decide

/-- What stands between the braces of a reference: something, and no closing
    brace. -/
def IsInside (inside : Text) : Prop :=
  inside ≠ [] ∧ closeBrace ∉ inside

/-! ## The first reference -/

/-- A text starts with a reference exactly when it is written like one. -/
theorem reference?_eq_some_iff {text inside after : Text} :
    reference? text = some (inside, after) ↔
      text = opening ++ inside ++ closing ++ after ∧ IsInside inside := by
  constructor
  · intro h
    refine ⟨eq_of_reference? h, ?_⟩
    -- The inside is what was taken up to the first closing brace.
    simp only [reference?] at h
    split at h
    · simp at h
    · split at h
      · simp at h
      · split at h
        · simp at h
        next hne =>
          obtain ⟨rfl, -⟩ := Prod.mk.inj (Option.some.inj h)
          constructor
          · intro hnil
            exact hne (by simp [hnil])
          · intro hmem
            simpa using List.mem_takeWhile_imp hmem
  · intro hright
    obtain ⟨rfl, hne, hclose⟩ := hright
    -- The inside has no closing brace, so taking and dropping stop right behind it.
    have hall : ∀ c ∈ inside, (c != '\x7d') = true := by
      intro c hc
      have hne : c ≠ closeBrace := by
        intro heq
        exact hclose (heq ▸ hc)
      simpa using hne
    have hinside : inside.isEmpty = false := by simpa using hne
    simp only [reference?, List.append_assoc, dropPiece?_append,
      List.takeWhile_append_of_pos hall, List.dropWhile_append_of_pos hall]
    simp [closing, dropPiece?, hinside]

theorem reference?_write {inside : Text} (h : IsInside inside) (after : Text) :
    reference? (opening ++ inside ++ closing ++ after) = some (inside, after) :=
  reference?_eq_some_iff.2 ⟨rfl, h⟩

/-- No reference starts at a character that is no opening brace. -/
theorem reference?_cons_of_ne {c : Char} (hc : c ≠ openBrace) (text : Text) :
    reference? (c :: text) = none := by
  have hne : ¬ '\x7b' = c := fun h => hc h.symm
  simp [reference?, opening, dropPiece?, hne]

/-! ## The cut -/

/-- A list of pieces that a text can be cut into: the references are written
    like references, and none starts at a plain character. -/
def WellCut : List Piece → Prop
  | [] => True
  | .plain c :: rest => reference? (c :: sourceOf rest) = none ∧ WellCut rest
  | .reference inside :: rest => IsInside inside ∧ WellCut rest

theorem sourceOf_cons (piece : Piece) (rest : List Piece) :
    sourceOf (piece :: rest) = piece.source ++ sourceOf rest := rfl

theorem wellCut_pieces (text : Text) : WellCut (pieces text) := by
  fun_induction pieces text with
  | case1 text inside after h ih => exact ⟨(reference?_eq_some_iff.1 h).2, ih⟩
  | case2 => trivial
  | case3 c rest h ih => exact ⟨by rwa [sourceOf_pieces], ih⟩

theorem pieces_nil : pieces [] = [] := by
  rw [pieces]
  rfl

theorem pieces_of_reference? {text inside after : Text}
    (h : reference? text = some (inside, after)) :
    pieces text = .reference inside :: pieces after := by
  rw [pieces]
  split
  next inside' after' h' =>
    rw [h] at h'
    obtain ⟨rfl, rfl⟩ := Prod.mk.inj (Option.some.inj h')
    rfl
  next h' => rw [h] at h'; cases h'

theorem pieces_cons_of_none {c : Char} {text : Text} (h : reference? (c :: text) = none) :
    pieces (c :: text) = .plain c :: pieces text := by
  rw [pieces]
  split
  next h' => rw [h] at h'; cases h'
  next h' => rfl

/-- Pieces that a text can be cut into are found again in what they write. -/
theorem pieces_sourceOf {list : List Piece} (h : WellCut list) : pieces (sourceOf list) = list := by
  induction list with
  | nil => exact pieces_nil
  | cons piece rest ih =>
    cases piece with
    | plain c =>
      rw [sourceOf_cons, Piece.source, List.singleton_append, pieces_cons_of_none h.1, ih h.2]
    | reference inside =>
      rw [sourceOf_cons, Piece.source, pieces_of_reference? (reference?_write h.1 _), ih h.2]

/-- **The cut of a text** is the one list of pieces that writes the text and has
    no reference starting at a plain character. -/
theorem pieces_eq_iff {text : Text} {list : List Piece} :
    pieces text = list ↔ WellCut list ∧ sourceOf list = text := by
  constructor
  · intro heq
    subst heq
    exact ⟨wellCut_pieces text, sourceOf_pieces text⟩
  · intro hright
    obtain ⟨h, rfl⟩ := hright
    exact pieces_sourceOf h

/-! ## The embedded text -/

/-- What stands between the braces of a reference after embedding. -/
def embedInside (inside : Text) : Text :=
  if namesFile inside then (directiveFor inside).embed inside else inside

theorem embed_reference (inside : Text) :
    (Piece.reference inside).embed = .reference (embedInside inside) := by
  simp only [Piece.embed, embedInside]
  split <;> rfl

theorem embedFiles_nil : embedFiles [] = [] := by
  rw [embedFiles, pieces_nil]
  rfl

theorem embedFiles_cons_of_none {c : Char} {text : Text} (h : reference? (c :: text) = none) :
    embedFiles (c :: text) = c :: embedFiles text := by
  unfold embedFiles
  rw [pieces_cons_of_none h, List.map_cons, sourceOf_cons]
  rfl

theorem embedFiles_cons_of_ne {c : Char} (hc : c ≠ openBrace) (text : Text) :
    embedFiles (c :: text) = c :: embedFiles text :=
  embedFiles_cons_of_none (reference?_cons_of_ne hc text)

/-- A text that opens no reference stays as it is. -/
theorem embedFiles_eq_self {text : Text} (h : openBrace ∉ text) : embedFiles text = text := by
  induction text with
  | nil => exact embedFiles_nil
  | cons c text ih =>
    rw [List.mem_cons, not_or] at h
    rw [embedFiles_cons_of_ne (Ne.symm h.1), ih h.2]

theorem embedFiles_write {inside : Text} (h : IsInside inside) (after : Text) :
    embedFiles (opening ++ inside ++ closing ++ after) =
      opening ++ embedInside inside ++ closing ++ embedFiles after := by
  unfold embedFiles
  rw [pieces_of_reference? (reference?_write h after), List.map_cons, sourceOf_cons,
    embed_reference]
  rfl

theorem isDirective_embed (directive : Directive) (file : Text) :
    isDirective (directive.embed file) = true := by
  cases directive <;> simp [isDirective, Directive.embed, List.append_assoc]

/-- A directive is not embedded again. -/
theorem embedInside_embedInside (inside : Text) :
    embedInside (embedInside inside) = embedInside inside := by
  by_cases h : namesFile inside = true
  · -- What was embedded is a directive now, and directives name no file.
    have hdone : namesFile ((directiveFor inside).embed inside) = false := by
      simp [namesFile, isDirective_embed]
    rw [embedInside, embedInside, if_pos h, hdone, if_neg Bool.false_ne_true]
  · rw [embedInside, embedInside, if_neg h, if_neg h]

/-- A directive can stand in a reference. -/
theorem isInside_embedInside {inside : Text} (h : IsInside inside) :
    IsInside (embedInside inside) := by
  unfold embedInside
  split
  · -- No part that a directive adds has a closing brace.
    refine ⟨by simp [Directive.embed], ?_⟩
    have hopening : closeBrace ∉ (directiveFor inside).opening := by
      cases directiveFor inside <;> decide
    have hup : closeBrace ∉ "../".toList := by decide
    have hend : closeBrace ∉ [')'] := by decide
    simp only [Directive.embed, List.mem_append, not_or]
    exact ⟨⟨⟨hopening, hup⟩, h.2⟩, hend⟩
  · exact h

/-- Embedding keeps the first character of a text. -/
theorem head?_embedFiles (text : Text) : (embedFiles text).head? = text.head? := by
  fun_cases pieces text with
  | case1 _ inside after h =>
    obtain ⟨rfl, hinside⟩ := reference?_eq_some_iff.1 h
    rw [embedFiles_write hinside]
    rfl
  | case2 => rw [embedFiles_nil]
  | case3 c rest h => rw [embedFiles_cons_of_none h]; rfl

/-- What stands before any opening brace in the embedded text stands in the
    text. -/
theorem exists_of_embedFiles_eq_append {front : Text} (hfront : openBrace ∉ front)
    {text back : Text}
    (h : embedFiles text = front ++ back) : ∃ back', text = front ++ back' := by
  induction front generalizing text with
  | nil => exact ⟨text, rfl⟩
  | cons c front ih =>
    rw [List.mem_cons, not_or] at hfront
    -- The first character is kept, and as it opens no reference it is a plain one.
    have hhead := head?_embedFiles text
    rw [h] at hhead
    obtain ⟨rest, rfl⟩ := List.head?_eq_some_iff.1 hhead.symm
    rw [embedFiles_cons_of_ne (Ne.symm hfront.1), List.cons_append] at h
    obtain ⟨back', rfl⟩ := ih hfront.2 (List.cons.inj h).2
    exact ⟨back', rfl⟩

/-! ## The cut of the embedded text -/

/-- Where the embedded text closes a reference, with no closing brace before,
    the text itself does so. -/
theorem exists_closing_of_embedFiles {text inside after : Text}
    (h : embedFiles text = inside ++ closing ++ after) (hclose : closeBrace ∉ inside) :
    ∃ inside' after', text = inside' ++ closing ++ after' ∧ closeBrace ∉ inside' ∧
      (inside ≠ [] → inside' ≠ []) := by
  fun_induction pieces text generalizing inside with
  | case1 text i a href ih =>
    -- The text starts with a reference, which is closed.
    obtain ⟨rfl, hi⟩ := reference?_eq_some_iff.1 href
    have hopening : closeBrace ∉ opening := by decide
    exact ⟨opening ++ i, a, rfl, by simp [hopening, hi.2], by simp [opening]⟩
  | case2 => simp [embedFiles_nil, closing] at h
  | case3 c rest hnone ih =>
    rw [embedFiles_cons_of_none hnone] at h
    cases inside with
    | nil =>
      -- Two closing braces: the second one is the first character of the rest.
      obtain ⟨rfl, hrest⟩ := List.cons.inj h
      have hhead := head?_embedFiles rest
      rw [hrest] at hhead
      obtain ⟨rest', rfl⟩ := List.head?_eq_some_iff.1 hhead.symm
      exact ⟨[], rest', rfl, by simp, by simp⟩
    | cons d inside =>
      -- The first character stays, and the rest closes a reference further on.
      obtain ⟨rfl, hrest⟩ := List.cons.inj h
      rw [List.mem_cons, not_or] at hclose
      obtain ⟨hd, hclose⟩ := hclose
      obtain ⟨inside', after', rfl, hinside', -⟩ := ih hrest hclose
      exact ⟨c :: inside', after', rfl, by simp [hd, hinside'], by simp⟩

/-- Embedding makes no new reference at a plain character. -/
theorem reference?_cons_embedFiles {c : Char} {rest : Text}
    (hnone : reference? (c :: rest) = none) :
    reference? (c :: embedFiles rest) = none := by
  rcases h : reference? (c :: embedFiles rest) with _ | ⟨inside, after⟩
  · rfl
  exfalso
  obtain ⟨htext, hne, hclose⟩ := reference?_eq_some_iff.1 h
  obtain ⟨rfl, hafter⟩ := List.cons.inj htext
  have hhead := head?_embedFiles rest
  rw [hafter] at hhead
  obtain ⟨rest, rfl⟩ := List.head?_eq_some_iff.1 hhead.symm
  rcases hrest : reference? (openBrace :: rest) with _ | ⟨i, a⟩
  · -- Both opening braces are plain, so the reference is closed by plain text.
    rw [embedFiles_cons_of_none hrest] at hafter
    obtain ⟨i, a, rfl, hi, hi'⟩ := exists_closing_of_embedFiles (List.cons.inj hafter).2 hclose
    rw [show '\x7b' :: openBrace :: (i ++ closing ++ a) = opening ++ i ++ closing ++ a from rfl,
      reference?_write ⟨hi' hne, hi⟩] at hnone
    cases hnone
  · -- A reference after an opening brace: its inside can begin one brace earlier.
    obtain ⟨htext, hi⟩ := reference?_eq_some_iff.1 hrest
    have hinside : IsInside (openBrace :: i) :=
      ⟨by simp, List.not_mem_cons_of_ne_of_not_mem (by decide) hi.2⟩
    rw [htext, show '\x7b' :: (opening ++ i ++ closing ++ a) =
      opening ++ (openBrace :: i) ++ closing ++ a from rfl, reference?_write hinside] at hnone
    cases hnone

/-- **The references of the embedded text** are the embedded references, with
    the same characters between them. -/
theorem pieces_embedFiles (text : Text) :
    pieces (embedFiles text) = (pieces text).map Piece.embed := by
  fun_induction pieces text with
  | case1 text inside after h ih =>
    obtain ⟨rfl, hinside⟩ := reference?_eq_some_iff.1 h
    have hembedded := reference?_write (isInside_embedInside hinside) (embedFiles after)
    rw [embedFiles_write hinside, pieces_of_reference? hembedded, ih, List.map_cons,
      embed_reference]
  | case2 => rw [embedFiles_nil, pieces_nil]; rfl
  | case3 c rest h ih =>
    rw [embedFiles_cons_of_none h, pieces_cons_of_none (reference?_cons_embedFiles h), ih]
    rfl

theorem embed_embed (piece : Piece) : piece.embed.embed = piece.embed := by
  cases piece with
  | plain c => rfl
  | reference inside => rw [embed_reference, embed_reference, embedInside_embedInside]

/-- Embedding twice is embedding once. -/
theorem embedFiles_embedFiles (text : Text) : embedFiles (embedFiles text) = embedFiles text := by
  have hmap : ((pieces text).map Piece.embed).map Piece.embed = (pieces text).map Piece.embed := by
    rw [List.map_map]
    exact List.map_congr_left fun piece _ => embed_embed piece
  rw [embedFiles, pieces_embedFiles, hmap, ← embedFiles]

/-! ## Embedding does not look at blanks -/

/-- Embedding keeps the last character of a text. -/
theorem getLast?_embedFiles (text : Text) : (embedFiles text).getLast? = text.getLast? := by
  fun_induction pieces text with
  | case1 text inside after h ih =>
    obtain ⟨rfl, hinside⟩ := reference?_eq_some_iff.1 h
    simp only [embedFiles_write hinside, List.getLast?_append, ih]
    rfl
  | case2 => rw [embedFiles_nil]
  | case3 c rest h ih => rw [embedFiles_cons_of_none h, List.getLast?_cons, List.getLast?_cons, ih]

/-- Text without a closing brace makes no reference when it is put behind. -/
theorem reference?_append {text tail : Text} (h : reference? text = none)
    (hclose : closeBrace ∉ tail) : reference? (text ++ tail) = none := by
  rcases hsome : reference? (text ++ tail) with _ | ⟨inside, after⟩
  · rfl
  exfalso
  obtain ⟨htext, hinside⟩ := reference?_eq_some_iff.1 hsome
  -- The closing braces are not in the tail, so the whole reference is in front of it.
  rcases List.append_eq_append_iff.1 htext with ⟨middle, hfront, htail⟩ | ⟨middle, hfront, -⟩
  · rcases List.eq_nil_or_concat middle with rfl | ⟨middle', d, rfl⟩
    · rw [List.append_nil] at hfront
      rw [← hfront, ← List.append_nil (opening ++ inside ++ closing), reference?_write hinside] at h
      cases h
    · have hlast := congrArg List.getLast? hfront
      rw [List.getLast?_append_of_ne_nil _ (by decide : closing ≠ []), List.concat_eq_append,
        ← List.append_assoc, List.getLast?_concat] at hlast
      obtain rfl : closeBrace = d := Option.some.inj hlast
      exact hclose (by simp [htail])
  · rw [hfront, reference?_write hinside] at h
    cases h

/-- Text without braces behind a text is embedded as it is. -/
theorem embedFiles_append {tail : Text} (hopen : openBrace ∉ tail) (hclose : closeBrace ∉ tail)
    (text : Text) : embedFiles (text ++ tail) = embedFiles text ++ tail := by
  fun_induction pieces text with
  | case1 text inside after h ih =>
    obtain ⟨rfl, hinside⟩ := reference?_eq_some_iff.1 h
    rw [List.append_assoc, embedFiles_write hinside, embedFiles_write hinside, ih,
      ← List.append_assoc]
  | case2 =>
    rw [embedFiles_nil]
    exact embedFiles_eq_self hopen
  | case3 c rest h ih =>
    have hnone : reference? (c :: rest ++ tail) = none := reference?_append h hclose
    rw [List.cons_append] at hnone
    rw [List.cons_append, embedFiles_cons_of_none hnone, embedFiles_cons_of_none h, ih,
      List.cons_append]

theorem endsLikeImage_collapse (file : Text) :
    endsLikeImage (collapse file) = endsLikeImage file := by
  unfold endsLikeImage
  -- Endings have no blanks, so a collapsed name ends with the same ones.
  rw [← collapse_map isBlank_toLower (by decide)]
  have hending : ∀ ending ∈ imageEndings, Solid ending := by decide
  rw [Bool.eq_iff_iff, List.any_eq_true, List.any_eq_true]
  refine exists_congr fun ending => and_congr_right fun hmem => ?_
  rw [List.isSuffixOf_iff_suffix, List.isSuffixOf_iff_suffix,
    suffix_collapse_iff (hending ending hmem)]

theorem isDirective_collapse (inside : Text) :
    isDirective (collapse inside) = isDirective inside := by
  have hopening (directive : Directive) : Solid directive.opening := by
    cases directive <;> decide
  unfold isDirective
  rw [Bool.eq_iff_iff, Bool.or_eq_true, Bool.or_eq_true]
  simp only [List.isPrefixOf_iff_prefix, prefix_collapse_iff (hopening _)]

theorem namesFile_collapse (inside : Text) : namesFile (collapse inside) = namesFile inside := by
  have hslash : isBlank '/' = false := by decide
  have hmem : (collapse inside).elem '/' = inside.elem '/' := by
    rw [Bool.eq_iff_iff, List.elem_iff, List.elem_iff, mem_collapse_iff hslash]
  rw [namesFile, hmem, isDirective_collapse, ← namesFile]

theorem embedInside_collapse (inside : Text) :
    embedInside (collapse inside) = collapse (embedInside inside) := by
  unfold embedInside directiveFor
  rw [namesFile_collapse, endsLikeImage_collapse]
  split
  · generalize (if endsLikeImage inside then Directive.screenshot else .download) = directive
    have hfront : Solid (directive.opening ++ "../".toList) := by
      cases directive <;> decide
    have hend : isBlank ')' = false := by decide
    rw [Directive.embed, Directive.embed, List.append_assoc _ inside,
      collapse_append_of_solid hfront, collapse_append_cons hend, List.append_assoc]
    rfl
  · rfl

theorem isInside_collapse_iff {inside : Text} : IsInside (collapse inside) ↔ IsInside inside := by
  rw [IsInside, IsInside, mem_collapse_iff isBlank_closeBrace, ne_eq, collapse_eq_nil_iff]

/-- A reference is collapsed inside. -/
theorem collapse_write (inside after : Text) :
    collapse (opening ++ inside ++ closing ++ after) =
      opening ++ collapse inside ++ closing ++ collapse after := by
  have hopening : Solid opening := by decide
  simp only [List.append_assoc]
  rw [collapse_append_of_solid hopening, show closing ++ after = closeBrace :: closeBrace :: after
    from rfl, collapse_append_cons isBlank_closeBrace, collapse_cons_of_not_blank isBlank_closeBrace]
  rfl

/-- Collapsing makes no reference. -/
theorem reference?_collapse {text : Text} (h : reference? text = none) :
    reference? (collapse text) = none := by
  rcases hsome : reference? (collapse text) with _ | ⟨inside, after⟩
  · rfl
  exfalso
  -- Each part of the reference can be found in the text itself: the opening
  -- braces, the inside up to the first closing brace, and the second one.
  obtain ⟨htext, hinside⟩ := reference?_eq_some_iff.1 hsome
  have hopening : Solid opening := by decide
  simp only [List.append_assoc] at htext
  obtain ⟨rest, rfl, hrest⟩ := exists_of_collapse_eq_append hopening htext
  obtain ⟨inside', rest', rfl, rfl, hclose⟩ :=
    exists_of_collapse_eq_append_cons isBlank_closeBrace hrest
  have hsecond : Solid [closeBrace] := by decide
  obtain ⟨after', rfl, -⟩ := exists_of_collapse_eq_append hsecond hclose
  have hwrite := reference?_write (isInside_collapse_iff.1 hinside) after'
  rw [List.append_assoc, List.append_assoc] at hwrite
  rw [show closeBrace :: ([closeBrace] ++ after') = closing ++ after' from rfl, hwrite] at h
  cases h

theorem startsBlank_embedFiles (text : Text) :
    startsBlank (embedFiles text) = startsBlank text := by
  rw [startsBlank, head?_embedFiles, ← startsBlank]

theorem ne_openBrace {c : Char} (hc : isBlank c = true) : c ≠ openBrace := by
  intro heq
  subst heq
  simp at hc

/-- Embedding and collapsing can be done in either order. -/
theorem embedFiles_collapse (text : Text) :
    embedFiles (collapse text) = collapse (embedFiles text) := by
  fun_induction pieces text with
  | case1 text inside after h ih =>
    obtain ⟨rfl, hinside⟩ := reference?_eq_some_iff.1 h
    rw [collapse_write, embedFiles_write (isInside_collapse_iff.2 hinside), embedFiles_write hinside,
      collapse_write, embedInside_collapse, ih]
  | case2 => rw [embedFiles_nil, collapse, embedFiles_nil]
  | case3 c rest h ih =>
    cases hc : isBlank c with
    | true =>
      -- Whether the blank is dropped depends on the next character, which stays.
      rw [embedFiles_cons_of_none h, collapse, collapse, if_pos hc, if_pos hc,
        startsBlank_embedFiles]
      split
      · exact ih
      · rw [embedFiles_cons_of_ne (ne_openBrace isBlank_space), ih]
    | false =>
      -- The character is a plain one on both sides.
      have hnone := reference?_collapse h
      rw [collapse_cons_of_not_blank hc] at hnone ⊢
      rw [embedFiles_cons_of_none hnone, ih, embedFiles_cons_of_none h,
        collapse_cons_of_not_blank hc]

theorem embedFiles_trimStart (text : Text) :
    embedFiles (trimStart text) = trimStart (embedFiles text) := by
  induction text with
  | nil => rw [embedFiles_nil]; exact embedFiles_nil
  | cons c text ih =>
    cases hc : isBlank c with
    | true =>
      rw [trimStart_cons, if_pos hc, embedFiles_cons_of_ne (ne_openBrace hc), trimStart_cons,
        if_pos hc, ih]
    | false =>
      have hhead : (embedFiles (c :: text)).head? = some c := head?_embedFiles (c :: text)
      obtain ⟨rest, hrest⟩ := List.head?_eq_some_iff.1 hhead
      rw [trimStart_cons, if_neg (by simp [hc]), hrest, trimStart_cons, if_neg (by simp [hc])]

theorem embedFiles_trimEnd (text : Text) :
    embedFiles (trimEnd text) = trimEnd (embedFiles text) := by
  obtain ⟨blanks, hblanks, htext⟩ := exists_eq_trimEnd_append text
  have hopen : openBrace ∉ blanks := by
    intro hmem
    simpa using hblanks openBrace hmem
  have hclose : closeBrace ∉ blanks := by
    intro hmem
    simpa using hblanks closeBrace hmem
  -- The last character is kept, so there is nothing to trim behind it.
  have hself : trimEnd (embedFiles (trimEnd text)) = embedFiles (trimEnd text) := by
    apply trimEnd_eq_self
    intro c hc
    rw [getLast?_embedFiles] at hc
    exact isBlank_of_getLast?_trimEnd hc
  calc embedFiles (trimEnd text)
      = trimEnd (embedFiles (trimEnd text)) := hself.symm
    _ = trimEnd (embedFiles (trimEnd text) ++ blanks) := by rw [trimEnd_append, if_pos hblanks]
    _ = trimEnd (embedFiles text) := by rw [← embedFiles_append hopen hclose, ← htext]

/-- **Embedding and squeezing can be done in either order.** -/
theorem embedFiles_squeeze (text : Text) :
    embedFiles (squeeze text) = squeeze (embedFiles text) := by
  rw [squeeze_eq_trim_collapse, squeeze_eq_trim_collapse, trim, trim, embedFiles_trimEnd,
    embedFiles_trimStart, embedFiles_collapse]

end Casebook.Text
