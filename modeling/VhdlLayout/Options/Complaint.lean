import VhdlLayout.Files
import VhdlLayout.Number.Shortest
import VhdlLayout.Options.Setting
import VhdlLayout.Text.Escaped
import VhdlLayout.Toml.Excerpt

/-!
# Complaints about options

What can be wrong with options that a user has written down, and how the user is
told. A text that is no TOML at all is refused without a reason; a setting that
is no good is shown with the line on which it stands; a number out of its range
is named together with the range. Options that cannot be written are refused for
a reason of their own.
-/

namespace VhdlLayout

/-- The kind of item that has been found, as far as a complaint tells it. -/
inductive Shape where
  | string (text : String)
  | integer (value : Int)
  | float (value : Binary64)
  | boolean (value : Bool)
  | sequence
  | map
deriving DecidableEq, Repr

namespace Shape

/-- The kind of an item. Dates and times are told as tables are. -/
def ofItem : Toml.Item → Shape
  | .scalar (.string text) _ => .string text
  | .scalar (.integer n) _ => .integer n
  | .scalar (.float x) _ => .float x
  | .scalar (.boolean b) _ => .boolean b
  | .scalar .moment _ | .table _ => .map
  | .array _ _ | .tables _ => .sequence

/-- The kind in words. -/
def describe : Shape → String
  | .string text => "string " ++ Escaped.quoteText text
  | .integer n => "integer `" ++ toString n ++ "`"
  | .float x => "floating point `" ++ x.text ++ "`"
  | .boolean b => "boolean `" ++ toString b ++ "`"
  | .sequence => "sequence"
  | .map => "map"

end Shape

/-- What kind of value a setting takes, if it is not one of several names. -/
inductive Wanted where
  | natural
  | boolean
deriving DecidableEq, Repr

/-- The kind in words. -/
def Wanted.describe : Wanted → String
  | .natural => "usize"
  | .boolean => "a boolean"

/-- What is wrong with a setting. -/
inductive SettingFault where
  /-- Nothing can be set under the name. -/
  | unknownField (name : String)
  /-- The name is none of those that may be chosen. -/
  | unknownChoice (name : String) (choices : List String)
  | mistyped (found : Shape) (wanted : Wanted)
  /-- A number is below zero. -/
  | negative (value : Int)
  /-- A choice is neither a text nor a table. -/
  | noChoice
  /-- A choice is a table without entries. -/
  | choiceMissing
  /-- A choice is a table with several entries. -/
  | choiceRepeated
  /-- A choice is a table whose entry holds something that is not empty. -/
  | choiceFilled (kind : String)
  /-- A choice is a table whose entry is a plain value. -/
  | choiceHolds (kind : String)
deriving DecidableEq, Repr

namespace SettingFault

/-- A name between grave accents. -/
def accented (name : String) : String := "`" ++ name ++ "`"

/-- Several names in words. -/
def oneOf : List String → String
  | [a, b] => accented a ++ " or " ++ accented b
  | names => "one of " ++ ", ".intercalate (names.map accented)

/-- The fault in words. -/
def message : SettingFault → String
  | .unknownField name =>
    "unknown field " ++ accented name ++ ", expected " ++ oneOf (Field.all.map Field.name)
  | .unknownChoice name choices =>
    "unknown variant " ++ accented name ++ ", expected " ++ oneOf choices
  | .mistyped found wanted =>
    "invalid type: " ++ found.describe ++ ", expected " ++ wanted.describe
  | .negative n =>
    "invalid value: " ++ (Shape.integer n).describe ++ ", expected " ++ Wanted.natural.describe
  | .noChoice => "wanted string or table"
  | .choiceMissing => "wanted exactly 1 element, found 0 elements"
  | .choiceRepeated => "wanted exactly 1 element, more than 1 element"
  | .choiceFilled kind => "expected empty " ++ kind
  | .choiceHolds kind => "expected table, found " ++ kind

end SettingFault

/-- A setting that is no good, and where it stands. -/
structure Complaint where
  fault : SettingFault
  extent : Toml.Extent
deriving DecidableEq, Repr

/-- The least and the greatest value that a number may have. -/
structure Bounds where
  least : Nat
  greatest : Nat
deriving DecidableEq, Repr

/-- Why there are no options. -/
inductive OptionsError where
  /-- The file at `path` cannot be read. -/
  | unreadable (path : String) (error : FileError)
  /-- The text is no TOML. -/
  | malformed
  /-- A setting is no good; it stands on the line shown. -/
  | invalid (fault : SettingFault) (excerpt : Toml.Excerpt)
  /-- A number is not within its bounds. -/
  | outOfRange (field : Field) (value : Nat) (bounds : Bounds)
deriving DecidableEq, Repr

/-- The error in words. -/
def OptionsError.message : OptionsError → String
  | .unreadable path error => "failed to read " ++ path ++ ": " ++ error.message
  | .malformed => "failed to parse configuration: TOML parse error\n"
  | .invalid fault excerpt =>
    "failed to parse configuration: " ++ excerpt.text ++ fault.message ++ "\n"
  | .outOfRange field value bounds =>
    field.name ++ " must be between " ++ toString bounds.least ++ " and " ++
      toString bounds.greatest ++ ", got " ++ toString value

/-- Why options cannot be written. -/
structure Options.Unwritable where
  reason : String
deriving DecidableEq, Repr

/-- The error in words. -/
def Options.Unwritable.message (e : Unwritable) : String :=
  "failed to serialize configuration: " ++ e.reason

end VhdlLayout
