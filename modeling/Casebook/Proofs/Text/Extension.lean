import Casebook.Proofs.Text.Restored

/-! # Extensions

    Which directive embeds a file.  The name of a file stands behind its last slash
    (`Text.baseName`), and its extension behind the last dot of the name
    (`Text.extension?`).

    * A file is embedded as a screenshot exactly if its name ends with the letters
      of the extension of an image (`directiveFor_eq_screenshot_iff`).  An image by
      its extension has such a name (`HasImageExtension.namedLikeImage`).
    * So the extension decides on the directive, but for names that end with these
      letters and have another extension or none (`embedFiles_by_extension`).
-/

namespace Casebook.Text

/-! ## Names and extensions -/

/-- What stands behind the last place of a character in a text, or all of a text
    without the character. -/
def behindLast (c : Char) (text : Text) : Text :=
  (text.reverse.takeWhile (· != c)).reverse

/-- The name of a file without its directories. -/
def baseName (file : Text) : Text :=
  behindLast '/' file

/-- The extension of a file, when there is a dot in its name. -/
def extension? (file : Text) : Option Text :=
  if '.' ∈ baseName file then some (behindLast '.' (baseName file)) else none

/-- The file is an image by its extension, in any case of the letters. -/
def HasImageExtension (file : Text) : Prop :=
  ∃ extension ∈ extension? file, extension.map Char.toLower ∈ imageEndings

/-- The name of the file ends with the letters of the extension of an image, in any
    case of the letters, whatever stands before them. -/
def NamedLikeImage (file : Text) : Prop :=
  ∃ ending ∈ imageEndings, ending <:+ (baseName file).map Char.toLower

instance (file : Text) : Decidable (HasImageExtension file) := by
  unfold HasImageExtension
  infer_instance

instance (file : Text) : Decidable (NamedLikeImage file) := by
  unfold NamedLikeImage
  infer_instance

theorem behindLast_suffix (c : Char) (text : Text) : behindLast c text <:+ text := by
  have hprefix := List.takeWhile_prefix (l := text.reverse) (· != c)
  rwa [← List.reverse_suffix, List.reverse_reverse] at hprefix

/-- The last place of a character cuts a text. -/
theorem exists_eq_append_behindLast {c : Char} {text : Text} (h : c ∈ text) :
    ∃ front, text = front ++ c :: behindLast c text := by
  -- From the end it is the first place.
  obtain ⟨back, front, hreverse, hback⟩ := List.eq_append_cons_of_mem (List.mem_reverse.2 h)
  have hall : ∀ d ∈ back, (d != c) = true := by
    intro d hd
    have hne : d ≠ c := by
      rintro rfl
      exact hback hd
    simpa using hne
  have hbehind : behindLast c text = back.reverse := by
    rw [behindLast, hreverse, List.takeWhile_append_of_pos hall]
    simp
  have htext : text = front.reverse ++ c :: back.reverse := by
    rw [← List.reverse_reverse text, hreverse]
    simp
  exact ⟨front.reverse, by rw [hbehind]; exact htext⟩

/-- An ending does not reach over a character that is not in it. -/
theorem suffix_append_cons_iff {c : Char} {ending front back : Text} (hc : c ∉ ending) :
    ending <:+ front ++ c :: back ↔ ending <:+ back := by
  constructor
  · intro h
    rcases List.suffix_or_suffix_of_suffix h (List.suffix_append front (c :: back)) with
      hending | hback
    · rcases List.suffix_cons_iff.1 hending with rfl | hending
      · exact absurd List.mem_cons_self hc
      · exact hending
    · exact absurd (hback.mem List.mem_cons_self) hc
  · intro h
    exact h.trans ((List.suffix_cons c back).trans (List.suffix_append front (c :: back)))

/-! ## The directive of a file -/

/-- An image by its extension is named like one. -/
theorem HasImageExtension.namedLikeImage {file : Text} (h : HasImageExtension file) :
    NamedLikeImage file := by
  obtain ⟨extension, hextension, hmem⟩ := h
  refine ⟨extension.map Char.toLower, hmem, ?_⟩
  unfold extension? at hextension
  split at hextension
  · obtain rfl := Option.some.inj hextension
    exact (behindLast_suffix '.' (baseName file)).map Char.toLower
  · cases hextension

/-- How a file ends is how its name ends: no ending of an image reaches over a slash. -/
theorem namedLikeImage_iff {file : Text} (hslash : '/' ∈ file) :
    NamedLikeImage file ↔ endsLikeImage file = true := by
  obtain ⟨front, hfile⟩ := exists_eq_append_behindLast hslash
  have hending : ∀ ending ∈ imageEndings, '/' ∉ ending := by decide
  have hlower : file.map Char.toLower =
      front.map Char.toLower ++ '/' :: (baseName file).map Char.toLower := by
    conv_lhs => rw [hfile]
    rw [List.map_append, List.map_cons]
    rfl
  unfold NamedLikeImage endsLikeImage
  rw [List.any_eq_true, hlower]
  refine exists_congr fun ending => and_congr_right fun hmem => ?_
  rw [List.isSuffixOf_iff_suffix, suffix_append_cons_iff (hending ending hmem)]

theorem directiveFor_eq_screenshot_iff {file : Text} (hslash : '/' ∈ file) :
    directiveFor file = .screenshot ↔ NamedLikeImage file := by
  rw [namedLikeImage_iff hslash, directiveFor]
  cases endsLikeImage file <;> simp

theorem embedFiles_of_pieces {text file : Text} {before after : List Piece}
    (hpieces : pieces text = before ++ .reference file :: after) :
    embedFiles text = sourceOf (before.map Piece.embed) ++
      (opening ++ embedInside file ++ closing) ++ sourceOf (after.map Piece.embed) := by
  rw [embedFiles, hpieces, List.map_append, List.map_cons, embed_reference]
  simp [sourceOf, Piece.source]

/-- **The name of a file decides how it is embedded.**  Let a reference of a text name
    a file, with a slash, and be no directive yet.  In its place the embedded text has
    the directive for a screenshot if the name ends with the letters of the extension
    of an image, and the one for a download otherwise.  This is what the extension of
    the file asks for, exactly if a name that ends with such letters has them as its
    extension. -/
theorem embedFiles_by_extension {text file : Text} {before after : List Piece}
    (hpieces : pieces text = before ++ .reference file :: after) (hslash : '/' ∈ file)
    (hnew : ∀ directive : Directive, ¬ directive.opening <+: file) :
    ∃ directive : Directive,
      embedFiles text = sourceOf (before.map Piece.embed) ++
        (opening ++ directive.embed file ++ closing) ++ sourceOf (after.map Piece.embed) ∧
      (directive = .screenshot ↔ NamedLikeImage file) ∧
      ((directive = .screenshot ↔ HasImageExtension file) ↔
        (NamedLikeImage file → HasImageExtension file)) := by
  have hnames : namesFile file = true := by
    simp [namesFile, hslash, isDirective_eq_false_iff.2 hnew]
  have hembed : embedInside file = (directiveFor file).embed file := by
    rw [embedInside, if_pos hnames]
  have hdirective := directiveFor_eq_screenshot_iff hslash
  refine ⟨directiveFor file, ?_, hdirective, ?_⟩
  · rw [embedFiles_of_pieces hpieces, hembed]
  · rw [hdirective]
    exact ⟨Iff.mp, fun h => ⟨h, HasImageExtension.namedLikeImage⟩⟩

/-- A file with several dots in its name and one in its directory. -/
def imageFile : Text := "\x7ba.b/icon.min.JpEg".toList

/-- A text with a reference to that file behind a brace, and with one to a file that is
    no image although its directory has the extension of one. -/
def imagesText : Text :=
  "See \x7b\x7b".toList ++ imageFile ++ "\x7d\x7d or\n\x7b\x7bold.png/icon.\x7d\x7d".toList

theorem embedFiles_by_extension_images :
    let before := "See ".toList.map Piece.plain
    let after := " or\n".toList.map Piece.plain ++ [.reference "old.png/icon.".toList]
    pieces imagesText = before ++ .reference imageFile :: after ∧ '/' ∈ imageFile ∧
      (∀ directive : Directive, ¬ directive.opening <+: imageFile) ∧
      HasImageExtension imageFile ∧ ¬ HasImageExtension "old.png/icon.".toList ∧
      ∃ directive : Directive,
        embedFiles imagesText = sourceOf (before.map Piece.embed) ++
          (opening ++ directive.embed imageFile ++ closing) ++
            sourceOf (after.map Piece.embed) ∧
        (directive = .screenshot ↔ NamedLikeImage imageFile) ∧
        ((directive = .screenshot ↔ HasImageExtension imageFile) ↔
          (NamedLikeImage imageFile → HasImageExtension imageFile)) := by
  intro before after
  have hpieces : pieces imagesText = before ++ .reference imageFile :: after := by
    decide +kernel
  have hslash : '/' ∈ imageFile := by decide
  have hnew : ∀ directive : Directive, ¬ directive.opening <+: imageFile :=
    isDirective_eq_false_iff.1 (by decide)
  exact ⟨hpieces, hslash, hnew, by decide +kernel, by decide +kernel,
    embedFiles_by_extension hpieces hslash hnew⟩

/-- A file with another extension and a file with none are embedded as screenshots,
    because their names end with the letters of the extension of an image. -/
theorem embedFiles_without_extension :
    let text := "\x7b\x7bdocs/report.xgif\x7d\x7d \x7b\x7bbin/makepng\x7d\x7d".toList
    references text = ["docs/report.xgif".toList, "bin/makepng".toList] ∧
      (∀ file ∈ references text, '/' ∈ file ∧ isDirective file = false ∧
        ¬ HasImageExtension file) ∧
      embedFiles text = "\x7b\x7bfile.screenshot(../docs/report.xgif)\x7d\x7d ".toList ++
        "\x7b\x7bfile.screenshot(../bin/makepng)\x7d\x7d".toList := by
  decide +kernel

end Casebook.Text
