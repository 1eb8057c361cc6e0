import Casebook.Proofs.Metadata.Comment
import Casebook.Proofs.Text.LineEnds

/-! # Line ends in comments

    A line of a comment makes the same setting with a carriage return at its end,
    as all parts of a setting are trimmed (`Setting.ofLine?_concat`).  So a comment
    declares the same with other line ends (`Metadata.ofComment_withReturns`), and
    its settings may be read from the lines without what ends them
    (`Text.filterMap_lines`).
-/

namespace Casebook

open Text (Blank isBlank withReturns)

namespace Setting

variable {c : Char}

theorem valuesOf_concat (hc : isBlank c = true) (values : Text) :
    valuesOf (values ++ [c]) = valuesOf values := by
  have hcomma : c ≠ ',' := by
    rintro rfl
    cases hc
  have hblank : Blank [c] := by simpa using hc
  obtain ⟨front, last, hvalues, hmore⟩ := Text.split_concat hcomma values
  rw [valuesOf, valuesOf, hvalues, hmore, List.map_append, List.map_append, List.map_singleton,
    List.map_singleton, Text.trim_append_of_blank hblank]

/-- The comment sign stands in front of a blank or nowhere. -/
theorem dropPiece?_commentSign_concat (hc : isBlank c = true) (line : Text) :
    Text.dropPiece? commentSign (line ++ [c]) =
      (Text.dropPiece? commentSign line).map (· ++ [c]) := by
  have hslash : '/' ≠ c := by
    rintro rfl
    cases hc
  match line with
  | [] => simp [Text.dropPiece?, commentSign, hslash]
  | [first] => simp [Text.dropPiece?, commentSign, hslash]
  | first :: second :: rest =>
    simp only [Text.dropPiece?, commentSign, List.cons_append]
    split
    · split <;> rfl
    · rfl

/-- The name and the value of a setting do not depend on a blank at the end. -/
theorem ofRest_concat (hc : isBlank c = true) (rest : Text) :
    Text.trim ((rest ++ [c]).takeWhile (· != ':')) = Text.trim (rest.takeWhile (· != ':')) ∧
      ofTail ((rest ++ [c]).dropWhile (· != ':')) = ofTail (rest.dropWhile (· != ':')) := by
  have hcolon : (c != ':') = true := by
    rw [bne_iff_ne]
    rintro rfl
    cases hc
  have hblank : Blank [c] := by simpa using hc
  have hrest : rest.takeWhile (· != ':') ++ rest.dropWhile (· != ':') = rest :=
    List.takeWhile_append_dropWhile
  cases hvalues : rest.dropWhile (· != ':') with
  | nil =>
    -- Without a colon the blank is one behind the name.
    rw [hvalues, List.append_nil] at hrest
    rw [List.takeWhile_append, List.dropWhile_append, hvalues, hrest]
    simp [hcolon, Text.trim_append_of_blank hblank]
  | cons colon values =>
    have hlength : (rest.takeWhile (· != ':')).length ≠ rest.length := by
      have hsum := congrArg List.length hrest
      rw [hvalues, List.length_append, List.length_cons] at hsum
      omega
    rw [List.takeWhile_append, List.dropWhile_append, hvalues, if_neg hlength]
    exact ⟨rfl, congrArg Setting.list (valuesOf_concat hc values)⟩

/-- **A line makes the same setting** with a blank at its end. -/
theorem ofLine?_concat (hc : isBlank c = true) (line : Text) :
    ofLine? (line ++ [c]) = ofLine? line := by
  have hstart : Text.dropPiece? commentSign (Text.trimStart (line ++ [c])) =
      (Text.dropPiece? commentSign (Text.trimStart line)).map (· ++ [c]) := by
    rw [Text.trimStart_append]
    split
    next hline =>
      rw [Text.trimStart_eq_nil_iff.2 hline, Text.trimStart_cons, if_pos hc]
      rfl
    · exact dropPiece?_commentSign_concat hc _
  unfold ofLine?
  rw [hstart]
  cases Text.dropPiece? commentSign (Text.trimStart line) with
  | none => rfl
  | some rest =>
    obtain ⟨hname, hvalue⟩ := ofRest_concat hc rest
    simp only [Option.map_some, hname, hvalue]

end Setting

/-- **The comment of a case** declares the same with other line ends. -/
theorem Metadata.ofComment_withReturns (source : Text) :
    Metadata.ofComment (withReturns source) = Metadata.ofComment source := by
  have hlines : ∀ (settings : Settings) (lines : List Text),
      (Text.returned lines).foldl Settings.addLine settings =
        lines.foldl Settings.addLine settings := by
    intro settings lines
    fun_induction Text.returned lines generalizing settings with
    | case1 => rfl
    | case2 line => rfl
    | case3 line next rest ih =>
      have hline : settings.addLine (line ++ ['\r']) = settings.addLine line := by
        unfold Settings.addLine
        rw [Setting.ofLine?_concat (by decide)]
      rw [List.foldl_cons, List.foldl_cons, hline, ih]
  have hsettings : Settings.ofComment (withReturns source) = Settings.ofComment source := by
    rw [Settings.ofComment, Text.split_withReturns]
    exact hlines {} _
  rw [Metadata.ofComment, hsettings, ← Metadata.ofComment]

end Casebook
