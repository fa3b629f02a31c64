import VhdlLayout.Options.Complaint
import VhdlLayout.Toml.Document

/-!
# Reading and writing options

Options are read from TOML and written in it. How that is done is left open
(`Options.Codec`): a text is parsed, the table that comes of it is made into
options, and only then are the numbers held to their bounds, the width of a line
first (`Options.Codec.read`).

The codec that the program runs with is `Options.toml`. What a text does not set
is left at its default, and the first setting that is no good is complained
about. A choice among names is given by the name as a text, or as the only entry
of a table that is empty itself. Numbers are written as the signed integers of 64
bits that TOML knows, so greater ones cannot be written.
-/

namespace VhdlLayout

/-- The names that may be chosen, with what they stand for. -/
abbrev Choices (α : Type) := List (String × α)

namespace Choices

/-- A choice under its own name. -/
def ofList {α : Type} (name : α → String) (choices : List α) : Choices α :=
  choices.map fun a => (name a, a)

/-- The cases of letters, by name. -/
def casings : Choices Casing := ofList Casing.name [.lower, .upper, .preserve]

/-- The characters that may indent, by name. -/
def indentStyles : Choices IndentStyle := ofList IndentStyle.name [.spaces, .tabs]

/-- The characters that may end a line, by name. -/
def lineEndings : Choices LineEnding := ofList LineEnding.name [.lf, .crlf]

/-- What the name stands for. -/
def get {α : Type} (choices : Choices α) (name : String) : Except SettingFault α :=
  match choices.lookup name with
  | some a => .ok a
  | none => .error (.unknownChoice name (choices.map (·.1)))

end Choices

namespace Complaint

/-- The result, or else the complaint that its fault stands at `extent`. -/
def locate {α : Type} (extent : Toml.Extent) : Except SettingFault α → Except Complaint α
  | .ok a => .ok a
  | .error fault => .error ⟨fault, extent⟩

end Complaint

namespace Toml.Item

/-- The natural number that the item is. -/
def natural : Item → Except SettingFault Nat
  | .scalar (.integer n) _ => if n < 0 then .error (.negative n) else .ok n.toNat
  | item => .error (.mistyped (Shape.ofItem item) .natural)

/-- The truth value that the item is. -/
def boolean : Item → Except SettingFault Bool
  | .scalar (.boolean b) _ => .ok b
  | item => .error (.mistyped (Shape.ofItem item) .boolean)

/-- What is wrong with what the name of a choice stands for, if it is not empty. -/
def filled? : Item → Option SettingFault
  | .scalar (.string _) _ => some (.choiceHolds "string")
  | .scalar (.integer _) _ => some (.choiceHolds "integer")
  | .scalar (.float _) _ => some (.choiceHolds "float")
  | .scalar (.boolean _) _ => some (.choiceHolds "boolean")
  | .scalar .moment _ => some (.choiceHolds "datetime")
  | .array items _ => if items.isEmpty then none else some (.choiceFilled "table")
  | .table t => if t.entries.isEmpty then none else some (.choiceFilled "table")
  | .tables ts => if ts.isEmpty then none else some (.choiceFilled "array")

/-- The choice that the item makes. It stands at `place`. -/
def choice {α : Type} (choices : Choices α) (place : Extent) (item : Item) : Except Complaint α :=
  match item with
  | .scalar (.string name) _ => Complaint.locate place (choices.get name)
  | .table ⟨_, _, []⟩ => .error ⟨.choiceMissing, place⟩
  | .table ⟨_, _, [(key, inner)]⟩ =>
    match Complaint.locate key.extent (choices.get key.name), inner.filled? with
    | .ok _, some fault => .error ⟨fault, inner.extent?.getD place⟩
    | result, _ => result
  | .table _ => .error ⟨.choiceRepeated, place⟩
  | _ => .error ⟨.noChoice, place⟩

end Toml.Item

namespace Setting

/-- The setting of the field that an item makes. It stands at `place`. -/
def ofItem (place : Toml.Extent) (item : Toml.Item) : Field → Except Complaint Setting
  | .lineWidth => .lineWidth <$> Complaint.locate place item.natural
  | .indentSize => .indentSize <$> Complaint.locate place item.natural
  | .indentStyle => .indentStyle <$> item.choice Choices.indentStyles place
  | .lineEnding => .lineEnding <$> item.choice Choices.lineEndings place
  | .keywordCase => .keywordCase <$> item.choice Choices.casings place
  | .constantCase => .constantCase <$> item.choice Choices.casings place
  | .identifierCase => .identifierCase <$> item.choice Choices.casings place
  | .align => .align <$> Complaint.locate place item.boolean

/-- The setting that an entry of a table makes. An item that does not stand in one place is
complained about where its name stands. -/
def ofEntry (e : Toml.Key × Toml.Item) : Except Complaint Setting :=
  match Field.ofName? e.1.name with
  | none => .error ⟨.unknownField e.1.name, e.1.extent⟩
  | some field => ofItem (e.2.extent?.getD e.1.extent) e.2 field

end Setting

namespace Bounds

/-- The bounds of the width of a line. -/
def lineWidth : Bounds := ⟨10, 200⟩

/-- The bounds of the size of an indentation. -/
def indentSize : Bounds := ⟨1, 16⟩

/-- A number that is within the bounds, or else an error. -/
def check (bounds : Bounds) (field : Field) (value : Nat) : Except OptionsError Unit :=
  if bounds.least ≤ value ∧ value ≤ bounds.greatest then .ok ()
  else .error (.outOfRange field value bounds)

end Bounds

namespace Options

/-- The options, if their numbers are within bounds. -/
def checked (o : Options) : Except OptionsError Options := do
  Bounds.lineWidth.check .lineWidth o.lineWidth
  Bounds.indentSize.check .indentSize o.indentSize
  pure o

/-- How options are read from TOML and written in it. -/
structure Codec where
  /-- The table that a text describes, if it is TOML. -/
  parse : String → Option Toml.Table
  /-- The options that a table sets. -/
  interpret : Toml.Table → Except Complaint Options
  /-- The options as a text, or else the reason why they cannot be written. -/
  write : Options → Except String String

namespace Codec

/-- The options that a text sets. -/
def read (codec : Codec) (text : String) : Except OptionsError Options :=
  match codec.parse text with
  | none => .error .malformed
  | some t =>
    match codec.interpret t with
    | .error c => .error (.invalid c.fault (Toml.Excerpt.ofExtent text c.extent))
    | .ok o => o.checked

/-- The options that the file at `path` sets, of which `content` has been read. -/
def readFile (codec : Codec) (path : String) (content : Except FileError String) :
    Except OptionsError Options :=
  match content with
  | .error e => .error (.unreadable path e)
  | .ok text => codec.read text

/-- The text that the options are written as. -/
def text (codec : Codec) (o : Options) : Except Unwritable String :=
  (codec.write o).mapError Unwritable.mk

end Codec

/-- The options that the entries of a table set. -/
def ofTable (t : Toml.Table) : Except Complaint Options := do
  pure (default.withSettings (← t.entries.mapM Setting.ofEntry))

/-- The number is one of the integers of TOML. -/
def isTomlInteger (n : Nat) : Bool := (Toml.integer? n).isSome

/-- The text of the options, if their numbers can be written. -/
def toToml (o : Options) : Except String String :=
  if isTomlInteger o.lineWidth && isTomlInteger o.indentSize then .ok o.text
  else .error "out-of-range value for u64 type"

/-- The codec that the program runs with. -/
def toml : Codec := ⟨Toml.Table.ofText?, ofTable, toToml⟩

/-- The options that a text sets. -/
def ofText (text : String) : Except OptionsError Options := toml.read text

/-- The options that the file at `path` sets, of which `content` has been read. -/
def ofFile (path : String) (content : Except FileError String) : Except OptionsError Options :=
  toml.readFile path content

end Options

end VhdlLayout
