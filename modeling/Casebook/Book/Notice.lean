import Casebook.Fault

/-! # Notices

    What a build tells along the way, with a level of importance.
-/

namespace Casebook

/-- How important a notice is. -/
inductive Level where
  | error
  | info
  | debug
  deriving DecidableEq, Repr

/-- Something that happened in a build. -/
inductive Notice where
  /-- a case was committed -/
  | committed (id title : Text) (steps : Nat)
  /-- a case was refused -/
  | refused (id : Text) (fault : Fault)
  /-- the cases of a group come next -/
  | buildingGroup (name : Text)
  /-- there is no configuration file -/
  | usingDefaults (path : Text)
  /-- a configuration file was read -/
  | loaded (path : Text) (sites : Nat)
  /-- a file was written -/
  | wrote (path : Text)
  deriving DecidableEq, Repr

namespace Notice

/-- The importance of a notice. -/
def level : Notice → Level
  | .refused _ _ => .error
  | .usingDefaults _ => .info
  | .committed _ _ _ | .buildingGroup _ | .loaded _ _ | .wrote _ => .debug

/-- A notice in words. -/
def message : Notice → Text
  | .committed id title steps =>
    id ++ ": committed \"".toList ++ title ++ "\" (".toList ++ Text.decimal steps
      ++ " steps)".toList
  | .refused id fault => id ++ ": ".toList ++ fault.message
  | .buildingGroup name => "building group ".toList ++ name
  | .usingDefaults path => "no configuration at ".toList ++ path ++ "; using defaults".toList
  | .loaded path sites =>
    "loaded configuration from ".toList ++ path ++ " (".toList ++ Text.decimal sites
      ++ " sites)".toList
  | .wrote path => "wrote ".toList ++ path

end Notice

end Casebook
