import Casebook.Text.Basic

/-! # Platforms

    A case runs on platforms with fixed identifiers, each a browser with a
    screen size, or a kind of device.  Authors write short names such as `ie10`
    or `android tablet landscape`.  A name is matched by the words it contains,
    whatever their case; the rules of `Platform.ofName?` are tried in order, and
    a name that none of them matches stands for itself.
-/

namespace Casebook

/-- A kind of mobile device. -/
inductive Device where
  | phone
  | tablet
  deriving DecidableEq, Repr

/-- How a mobile device is held. -/
inductive Orientation where
  | portrait
  | landscape
  deriving DecidableEq, Repr

/-- A platform that a case can run on. -/
inductive Platform where
  | osxChrome
  | osxFirefox
  | android (device : Device) (orientation : Orientation)
  | chrome
  | firefox
  | safari
  | ie8
  | ie9
  | ie10
  | ie11
  | edge
  deriving DecidableEq, Repr

/-- The word for a device in an identifier. -/
def Device.word : Device → Text
  | .phone => "phone".toList
  | .tablet => "tablet".toList

/-- The word for an orientation in an identifier. -/
def Orientation.word : Orientation → Text
  | .portrait => "portrait".toList
  | .landscape => "landscape".toList

namespace Platform

/-- The identifier of a platform. -/
def identifier : Platform → Text
  | .osxChrome => "osx_chrome_1440_900".toList
  | .osxFirefox => "osx_firefox_1440_900".toList
  | .android device orientation =>
    "android_".toList ++ device.word ++ ['_'] ++ orientation.word
  | .chrome => "chrome_1440_900".toList
  | .firefox => "firefox_1440_900".toList
  | .safari => "safari_1440_900".toList
  | .ie8 => "ie8_1440_900".toList
  | .ie9 => "ie9_1440_900".toList
  | .ie10 => "ie10_1440_900".toList
  | .ie11 => "ie11_1440_900".toList
  | .edge => "windows10_edge".toList

/-- The lower case of a character, as far as a name of ASCII letters can tell.
    Outside ASCII only the capital I with a dot and the Kelvin sign have an
    ASCII letter in their lower case. -/
def lowerChar (c : Char) : Text :=
  if c = '\u0130' then ['i', '\u0307']
  else if c = '\u212A' then ['k']
  else [c.toLower]

/-- The lower case of a name. -/
def lower (name : Text) : Text :=
  name.flatMap lowerChar

/-- The platform that a name in lower case stands for. -/
def ofLower? (name : Text) : Option Platform :=
  let has (word : String) : Bool := Text.contains name word.toList
  let mac := has "mac" || has "osx"
  if mac && has "chrome" then some .osxChrome
  else if mac && (has "ff" || has "firefox") then some .osxFirefox
  else if has "android" then
    some (.android (if has "tablet" then .tablet else .phone)
      (if has "landscape" then .landscape else .portrait))
  else if has "chrome" then some .chrome
  else if has "firefox" then some .firefox
  else if has "safari" then some .safari
  else if has "ie8" then some .ie8
  else if has "ie9" then some .ie9
  else if has "ie10" then some .ie10
  else if has "ie" then some .ie11
  else if has "edge" then some .edge
  else none

/-- The platform that a name stands for. -/
def ofName? (name : Text) : Option Platform :=
  ofLower? (lower name)

/-- The identifier that a name stands for: that of its platform, or else the
    name itself. -/
def resolve (name : Text) : Text :=
  match ofName? name with
  | some platform => platform.identifier
  | none => name

end Platform

end Casebook
