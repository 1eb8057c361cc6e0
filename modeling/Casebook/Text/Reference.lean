import Casebook.Text.Basic

/-! # References

    A reference is written between double braces and holds at least one
    character, none of them a closing brace.  A text is cut into its references
    and the characters between them, from the left and without overlap
    (`Text.pieces`); `sourceOf_pieces` says that the cut loses nothing.

    A reference that names a file, by a slash, is turned into a directive that
    embeds the file: a screenshot for an image, a download for anything else.
    References without a slash are placeholders of the platform and stay, and so
    do directives that are already written out (`Text.embedFiles`).
-/

namespace Casebook.Text

/-! ## Cutting a text at its references -/

/-- One piece of a text: a plain character, or a reference with its inside. -/
inductive Piece where
  | plain (c : Char)
  | reference (inside : Text)
  deriving DecidableEq, Repr

/-- What opens a reference. -/
def opening : Text := ['\x7b', '\x7b']

/-- What closes a reference. -/
def closing : Text := ['\x7d', '\x7d']

/-- The piece as it is written. -/
def Piece.source : Piece → Text
  | .plain c => [c]
  | .reference inside => opening ++ inside ++ closing

/-- The reference that a text starts with, and what follows it. -/
def reference? (text : Text) : Option (Text × Text) :=
  match dropPiece? opening text with
  | none => none
  | some rest =>
    let inside := rest.takeWhile (· != '\x7d')
    match dropPiece? closing (rest.dropWhile (· != '\x7d')) with
    | none => none
    | some after => if inside.isEmpty then none else some (inside, after)

theorem eq_of_reference? {text inside after : Text} (h : reference? text = some (inside, after)) :
    text = opening ++ inside ++ closing ++ after := by
  simp only [reference?] at h
  split at h
  · simp at h
  next rest hopen =>
    split at h
    · simp at h
    next rest' hclose =>
      split at h
      · simp at h
      · simp only [Option.some.injEq, Prod.mk.injEq] at h
        obtain ⟨rfl, rfl⟩ := h
        rw [dropPiece?_eq_some_iff] at hopen hclose
        rw [hopen, List.append_assoc, List.append_assoc, ← hclose,
          List.takeWhile_append_dropWhile]

theorem length_lt_of_reference? {text inside after : Text}
    (h : reference? text = some (inside, after)) : after.length < text.length := by
  simp only [eq_of_reference? h, opening, closing, List.length_append, List.length_cons]
  omega

/-- **The cut.**  The references of a text, leftmost first and without overlap,
    with the characters between them. -/
def pieces (text : Text) : List Piece :=
  match _h : reference? text with
  | some (inside, after) => .reference inside :: pieces after
  | none =>
    match text with
    | [] => []
    | c :: rest => .plain c :: pieces rest
termination_by text.length
decreasing_by
  · exact length_lt_of_reference? ‹_›
  · simp

/-- The pieces written one after the other. -/
def sourceOf (pieces : List Piece) : Text :=
  pieces.flatMap Piece.source

/-- The cut loses nothing. -/
theorem sourceOf_pieces (text : Text) : sourceOf (pieces text) = text := by
  fun_induction pieces text with
  | case1 text inside after h ih =>
    simp only [sourceOf, List.flatMap_cons, Piece.source] at ih ⊢
    rw [ih, ← eq_of_reference? h]
  | case2 => rfl
  | case3 c rest _ ih =>
    simp only [sourceOf, List.flatMap_cons, Piece.source] at ih ⊢
    rw [ih, List.singleton_append]

/-! ## Embedding files -/

/-- How the platform embeds a file. -/
inductive Directive where
  | screenshot
  | download
  deriving DecidableEq, Repr

/-- The text that a directive starts with. -/
def Directive.opening : Directive → Text
  | .screenshot => "file.screenshot(".toList
  | .download => "file.download(".toList

/-- The endings of the names of image files. -/
def imageEndings : List Text :=
  ["png".toList, "gif".toList, "jpg".toList, "jpeg".toList]

/-- Does the text end like the name of an image, in any case of the letters? -/
def endsLikeImage (file : Text) : Bool :=
  imageEndings.any fun ending => ending.isSuffixOf (file.map Char.toLower)

/-- Is the inside of a reference a directive already? -/
def isDirective (inside : Text) : Bool :=
  Directive.screenshot.opening.isPrefixOf inside || Directive.download.opening.isPrefixOf inside

/-- Does the inside of a reference name a file that is still to be embedded? -/
def namesFile (inside : Text) : Bool :=
  inside.elem '/' && !isDirective inside

/-- The directive that embeds a file. -/
def directiveFor (file : Text) : Directive :=
  if endsLikeImage file then .screenshot else .download

/-- The inside of the reference that embeds a file, given relative to the
    directory above. -/
def Directive.embed (directive : Directive) (file : Text) : Text :=
  directive.opening ++ "../".toList ++ file ++ [')']

/-- A reference to a file becomes its directive; every other piece stays. -/
def Piece.embed : Piece → Piece
  | .plain c => .plain c
  | .reference inside =>
    if namesFile inside then .reference ((directiveFor inside).embed inside)
    else .reference inside

/-- The text with every reference to a file turned into its directive. -/
def embedFiles (text : Text) : Text :=
  sourceOf ((pieces text).map Piece.embed)

end Casebook.Text
