import Casebook.Text.Basic

/-! # Faults of file operations

    The reasons for which a directory cannot be made or a file cannot be read
    or written, with their wording.
-/

namespace Casebook.Files

/-- Why a file operation fails. -/
inductive Fault where
  /-- a part of the path does not exist -/
  | notFound
  /-- what is to be made is there already -/
  | alreadyExists
  /-- a part of the path is a file -/
  | notDirectory
  /-- a directory stands where a file is wanted -/
  | isDirectory
  /-- the path or a name in it is too long -/
  | nameTooLong
  /-- the content is not text -/
  | invalidEncoding
  /-- the path contains the character zero -/
  | zeroInPath
  /-- a reason in words -/
  | other (message : Text)
  deriving DecidableEq, Repr

/-- The reason, in words. -/
def Fault.message : Fault → Text
  | .notFound => "No such file or directory (os error 2)".toList
  | .alreadyExists => "File exists (os error 17)".toList
  | .notDirectory => "Not a directory (os error 20)".toList
  | .isDirectory => "Is a directory (os error 21)".toList
  | .nameTooLong => "File name too long (os error 36)".toList
  | .invalidEncoding => "stream did not contain valid UTF-8".toList
  | .zeroInPath => "file name contained an unexpected NUL byte".toList
  | .other message => message

end Casebook.Files
