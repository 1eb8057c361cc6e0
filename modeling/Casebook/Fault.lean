import Casebook.Files.Fault
import Casebook.Json.Problem
import Casebook.Step.Outline

/-! # Faults

    The causes for which a case is refused, a configuration is not read, or a
    build stops, with their wording.
-/

namespace Casebook

/-- What went wrong. -/
inductive Fault where
  /-- a case has a blank id -/
  | missingIdentifier
  /-- another case has the id -/
  | duplicateIdentifier (id : Text)
  /-- another case has the title -/
  | duplicateTitle (title : Text)
  /-- a question has no step to go to -/
  | incompleteStep (cause : IncompleteStep)
  /-- a question, in its normal form, does not end with a question mark -/
  | malformedQuestion (question : Text)
  /-- groups are asked for that the suite does not have -/
  | unknownGroups (names : List Text)
  /-- the configuration is invalid for another reason -/
  | invalidConfiguration (reason : Text)
  /-- a file operation fails -/
  | file (cause : Files.Fault)
  /-- a document is not valid -/
  | json (fault : Json.Fault)
  /-- a script gives up, in its own words -/
  | other (message : Text)
  deriving DecidableEq, Repr

namespace Fault

/-- The words of the fault behind this one, where there is one. -/
def sourceMessage? : Fault → Option Text
  | .file cause => some cause.message
  | .json fault => some fault.message
  | _ => none

/-- What went wrong, in words. -/
def message : Fault → Text
  | .missingIdentifier => "test case is missing an ID".toList
  | .duplicateIdentifier id => "duplicate test ID: ".toList ++ id
  | .duplicateTitle title => "duplicate test title: ".toList ++ title
  | .incompleteStep cause => "incomplete step: ".toList ++ cause.message
  | .malformedQuestion question =>
    "question does not end with a question mark: ".toList ++ question
  | .unknownGroups names =>
    "Invalid configuration: unknown test group: ".toList ++ Text.joinWith ", ".toList names
  | .invalidConfiguration reason => "Invalid configuration: ".toList ++ reason
  | .file cause => "IO error: ".toList ++ cause.message
  | .json fault => "JSON error: ".toList ++ fault.message
  | .other message => message

/-- What went wrong, followed by the words of the fault behind it. -/
def fullMessage (fault : Fault) : Text :=
  match fault.sourceMessage? with
  | none => fault.message
  | some source => fault.message ++ ": ".toList ++ source

end Fault

end Casebook
