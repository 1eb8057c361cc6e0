import Casebook.Proofs.Text.References

/-! # Restored texts

    Embedding can be undone: a reference that is written like an embedded file is
    taken back to the name of the file (`Text.restoreFiles`).

    * What a directive embeds can be read off it (`embedded?_eq_some_iff`), so a
      reference is restored, unless it was a directive from the start
      (`restore_embed_reference`).
    * Embedding changes only the insides of references: the characters between
      them and the places of the references stay (`frame_embedFiles`).
    * Together, embedding loses nothing (`restoreFiles_embedFiles`).
-/

namespace Casebook.Text

/-! ## Reading a directive -/

/-- The file that a directive embeds, when the inside of a reference is this
    directive with a file. -/
def Directive.embedded? (directive : Directive) (inside : Text) : Option Text :=
  match dropPiece? (directive.opening ++ "../".toList) inside with
  | none => none
  | some rest => if rest.getLast? = some ')' then some rest.dropLast else none

/-- The file that the inside of a reference embeds, if it is written like that of
    an embedded file. -/
def embedded? (inside : Text) : Option Text :=
  (Directive.screenshot.embedded? inside).or (Directive.download.embedded? inside)

theorem Directive.embedded?_eq_some_iff {directive : Directive} {inside file : Text} :
    directive.embedded? inside = some file ↔ inside = directive.embed file := by
  unfold Directive.embedded?
  constructor
  · intro h
    split at h
    · cases h
    next rest hrest =>
      split at h
      next hlast =>
        -- The bracket that closes the directive is the last character.
        obtain ⟨front, rfl⟩ := List.getLast?_eq_some_iff.1 hlast
        rw [List.dropLast_concat, Option.some.injEq] at h
        rw [dropPiece?_eq_some_iff.1 hrest, h, Directive.embed, List.append_assoc _ file]
      · cases h
  · intro h
    have hrest : dropPiece? (directive.opening ++ "../".toList) inside = some (file ++ [')']) := by
      rw [dropPiece?_eq_some_iff, h, Directive.embed, List.append_assoc _ file]
    rw [hrest]
    simp

theorem opening_prefix_embed (directive : Directive) (file : Text) :
    directive.opening <+: directive.embed file := by
  unfold Directive.embed
  rw [List.append_assoc, List.append_assoc]
  exact List.prefix_append _ _

/-- A text begins like one directive at most. -/
theorem directive_eq_of_prefix {directive other : Directive} {inside : Text}
    (h : directive.opening <+: inside) (h' : other.opening <+: inside) : directive = other := by
  have hprefix := List.prefix_or_prefix_of_prefix h h'
  revert hprefix
  cases directive <;> cases other <;> decide

/-- **A directive shows what it embeds**: the two directives begin in different
    ways, so at most one of them is read. -/
theorem embedded?_eq_some_iff {inside file : Text} :
    embedded? inside = some file ↔ ∃ directive : Directive, inside = directive.embed file := by
  simp only [embedded?, Option.or_eq_some_iff, Directive.embedded?_eq_some_iff]
  constructor
  · rintro (h | ⟨-, h⟩)
    · exact ⟨.screenshot, h⟩
    · exact ⟨.download, h⟩
  · rintro ⟨directive, h⟩
    cases directive with
    | screenshot => exact Or.inl h
    | download =>
      refine Or.inr ⟨?_, h⟩
      by_contra hsome
      obtain ⟨other, hother⟩ := Option.ne_none_iff_exists'.1 hsome
      rw [Directive.embedded?_eq_some_iff] at hother
      have hscreenshot := opening_prefix_embed .screenshot other
      have hdownload := opening_prefix_embed .download file
      rw [← hother] at hscreenshot
      rw [← h] at hdownload
      cases directive_eq_of_prefix hscreenshot hdownload

theorem isDirective_iff {inside : Text} :
    isDirective inside = true ↔ ∃ directive : Directive, directive.opening <+: inside := by
  rw [isDirective, Bool.or_eq_true, List.isPrefixOf_iff_prefix, List.isPrefixOf_iff_prefix]
  constructor
  · rintro (h | h)
    · exact ⟨.screenshot, h⟩
    · exact ⟨.download, h⟩
  · rintro ⟨directive, h⟩
    cases directive with
    | screenshot => exact Or.inl h
    | download => exact Or.inr h

theorem isDirective_eq_false_iff {inside : Text} :
    isDirective inside = false ↔ ∀ directive : Directive, ¬ directive.opening <+: inside := by
  rw [Bool.eq_false_iff, ne_eq, isDirective_iff, not_exists]

/-! ## Restoring references -/

/-- A reference that embeds a file becomes a reference to it; every other piece
    stays. -/
def Piece.restore : Piece → Piece
  | .plain c => .plain c
  | .reference inside => .reference ((embedded? inside).getD inside)

/-- The text with every reference that embeds a file turned into one to the
    file. -/
def restoreFiles (text : Text) : Text :=
  sourceOf ((pieces text).map Piece.restore)

/-- A reference that was no directive is restored. -/
theorem restore_embed_reference {inside : Text} (h : isDirective inside = false) :
    (Piece.reference inside).embed.restore = .reference inside := by
  rw [embed_reference, Piece.restore, embedInside]
  by_cases hnames : namesFile inside = true
  · have hread : embedded? ((directiveFor inside).embed inside) = some inside :=
      embedded?_eq_some_iff.2 ⟨_, rfl⟩
    rw [if_pos hnames, hread, Option.getD_some]
  · -- It was not embedded, and it does not look like it either.
    have hread : embedded? inside = none := by
      by_contra hsome
      obtain ⟨file, hfile⟩ := Option.ne_none_iff_exists'.1 hsome
      obtain ⟨directive, hinside⟩ := embedded?_eq_some_iff.1 hfile
      rw [hinside, isDirective_embed] at h
      cases h
    rw [if_neg hnames, hread, Option.getD_none]

/-! ## What embedding leaves in place -/

/-- The inside of a reference. -/
def Piece.inside? : Piece → Option Text
  | .plain _ => none
  | .reference inside => some inside

/-- The plain character; a reference has none. -/
def Piece.char? : Piece → Option Char
  | .plain c => some c
  | .reference _ => none

/-- The insides of the references of a text, in order. -/
def references (text : Text) : List Text :=
  (pieces text).filterMap Piece.inside?

/-- The characters of a text that are in no reference, with a hole in the place
    of each reference. -/
def frame (text : Text) : List (Option Char) :=
  (pieces text).map Piece.char?

theorem mem_references {text inside : Text} :
    inside ∈ references text ↔ .reference inside ∈ pieces text := by
  unfold references
  rw [List.mem_filterMap]
  constructor
  · rintro ⟨piece, hmem, hinside⟩
    cases piece with
    | plain c => cases hinside
    | reference other =>
      rw [Piece.inside?, Option.some.injEq] at hinside
      rwa [← hinside]
  · intro hmem
    exact ⟨.reference inside, hmem, rfl⟩

theorem char?_embed (piece : Piece) : piece.embed.char? = piece.char? := by
  cases piece with
  | plain c => rfl
  | reference inside =>
    rw [embed_reference]
    rfl

theorem inside?_embed (piece : Piece) : piece.embed.inside? = piece.inside?.map embedInside := by
  cases piece with
  | plain c => rfl
  | reference inside =>
    rw [embed_reference]
    rfl

/-- What stands outside of the references stays, and so do their places. -/
theorem frame_embedFiles (text : Text) : frame (embedFiles text) = frame text := by
  rw [frame, pieces_embedFiles, List.map_map, frame]
  exact List.map_congr_left fun piece _ => char?_embed piece

/-- The references of the embedded text are those of the text, each embedded. -/
theorem references_embedFiles (text : Text) :
    references (embedFiles text) = (references text).map embedInside := by
  rw [references, pieces_embedFiles, List.filterMap_map, references, List.map_filterMap]
  exact List.filterMap_congr fun piece _ => inside?_embed piece

/-- A reference that names a file is a directive after embedding. -/
theorem isDirective_embedInside {inside : Text} (h : '/' ∈ embedInside inside) :
    isDirective (embedInside inside) = true := by
  unfold embedInside at h ⊢
  split
  · exact isDirective_embed _ _
  next hnames =>
    -- The slash was there before, so it was not embedded for being a directive.
    rw [if_neg hnames] at h
    simpa [namesFile, h] using hnames

/-- **Embedding loses nothing.**  In a text of which no reference is a directive
    yet, restoring the embedded files gives the text back.  The embedded text has
    as many references, in the same places among the same characters, and those
    with a slash are directives now. -/
theorem restoreFiles_embedFiles {text : Text}
    (h : ∀ inside ∈ references text, ∀ directive : Directive, ¬ directive.opening <+: inside) :
    restoreFiles (embedFiles text) = text ∧
      (references (embedFiles text)).length = (references text).length ∧
      frame (embedFiles text) = frame text ∧
      ∀ inside ∈ references (embedFiles text), '/' ∈ inside →
        ∃ directive : Directive, directive.opening <+: inside := by
  have hpiece : ∀ piece ∈ pieces text, piece.embed.restore = piece := by
    intro piece hmem
    cases piece with
    | plain c => rfl
    | reference inside =>
      have hinside := h inside (mem_references.2 hmem)
      exact restore_embed_reference (isDirective_eq_false_iff.2 hinside)
  have hrestored : ((pieces text).map Piece.embed).map Piece.restore = pieces text := by
    rw [List.map_map]
    exact (List.map_congr_left hpiece).trans (List.map_id _)
  refine ⟨?_, ?_, frame_embedFiles text, ?_⟩
  · rw [restoreFiles, pieces_embedFiles, hrestored, sourceOf_pieces]
  · rw [references_embedFiles, List.length_map]
  · intro inside hmem hslash
    rw [references_embedFiles, List.mem_map] at hmem
    obtain ⟨before, -, rfl⟩ := hmem
    exact isDirective_iff.1 (isDirective_embedInside hslash)

/-- A text with braces in a row, a placeholder, a directive that does not stand
    at the start of its reference, and braces that are never closed. -/
def bracedText : Text :=
  "\x7b\x7b\x7bimg/a.PNG\x7d\x7d\x7d \x7b\x7b file.download(../b)\x7d\x7d".toList ++
    "\x7b\x7bc\x7d\x7d \x7b\x7b/\n\x7d \x7b\x7b".toList

/-- The text with its files embedded. -/
def bracedEmbedded : Text :=
  "\x7b\x7bfile.screenshot(../\x7bimg/a.PNG)\x7d\x7d\x7d ".toList ++
    "\x7b\x7bfile.download(../ file.download(../b))\x7d\x7d".toList ++
    "\x7b\x7bc\x7d\x7d \x7b\x7b/\n\x7d \x7b\x7b".toList

theorem restoreFiles_embedFiles_braced :
    (∀ inside ∈ references bracedText, ∀ directive : Directive, ¬ directive.opening <+: inside) ∧
      embedFiles bracedText = bracedEmbedded ∧
      restoreFiles (embedFiles bracedText) = bracedText ∧
      (references (embedFiles bracedText)).length = (references bracedText).length ∧
      frame (embedFiles bracedText) = frame bracedText ∧
      ∀ inside ∈ references (embedFiles bracedText), '/' ∈ inside →
        ∃ directive : Directive, directive.opening <+: inside := by
  have hnone : ∀ inside ∈ references bracedText, isDirective inside = false := by
    decide +kernel
  have h : ∀ inside ∈ references bracedText, ∀ directive : Directive,
      ¬ directive.opening <+: inside := by
    intro inside hmem
    exact isDirective_eq_false_iff.1 (hnone inside hmem)
  have hembedded : embedFiles bracedText = bracedEmbedded := by
    decide +kernel
  exact ⟨h, hembedded, restoreFiles_embedFiles h⟩

end Casebook.Text
