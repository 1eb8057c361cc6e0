import Casebook.Metadata.Settings
import Casebook.Text.Blank

/-! # Settings in comments

    Settings are written next to a case as comment lines:

        // title: search and delete something
        // tags: search, delete-content
        // disabled

    A line is a setting when it begins, after blanks, with the comment sign.
    Up to the first colon stands the name; after it stand the values, separated
    by commas.  Without a colon the setting is a flag.  Names and values are
    trimmed, empty values are dropped, and a line with an empty name sets
    nothing.  Of two lines with one name the later counts.
-/

namespace Casebook

/-- What begins a comment line. -/
def commentSign : Text := ['/', '/']

/-- The values written after the colon of a setting. -/
def Setting.valuesOf (text : Text) : List Text :=
  ((Text.split ',' text).map Text.trim).filter fun value => !value.isEmpty

/-- The value written after the name of a setting: a list if there is a colon,
    and a flag if there is nothing. -/
def Setting.ofTail : Text → Setting
  | [] => .flag
  | _ :: values => .list (Setting.valuesOf values)

/-- The setting that a line makes, with its name. -/
def Setting.ofLine? (line : Text) : Option (Text × Setting) :=
  match Text.dropPiece? commentSign (Text.trimStart line) with
  | none => none
  | some rest =>
    let name := Text.trim (rest.takeWhile (· != ':'))
    if name.isEmpty then none
    else some (name, Setting.ofTail (rest.dropWhile (· != ':')))

namespace Settings

/-- The settings after one more line. -/
def addLine (settings : Settings) (line : Text) : Settings :=
  match Setting.ofLine? line with
  | none => settings
  | some (name, value) => settings.set name value

/-- The settings that a list of lines makes. -/
def ofLines (lines : List Text) : Settings :=
  lines.foldl addLine {}

/-- The settings that a comment text makes, line by line. -/
def ofComment (source : Text) : Settings :=
  ofLines (Text.split '\n' source)

end Settings

end Casebook
