import VhdlLayout.Options.Basic

/-!
# Settings

A setting is a choice for one of the options. Settings are written one a line,
as the name of the option, an equals sign and the value (`Setting.line`); the
text of the options as a whole is that of eight settings (`Options.text`).
Numbers are written in decimal digits and names between double quotes.
-/

namespace VhdlLayout

/-- What can be set. -/
inductive Field where
  | lineWidth
  | indentSize
  | indentStyle
  | lineEnding
  | keywordCase
  | constantCase
  | identifierCase
  | align
deriving DecidableEq, Repr

namespace Field

/-- All that can be set, in the order in which it is written. -/
def all : List Field :=
  [.lineWidth, .indentSize, .indentStyle, .lineEnding, .keywordCase, .constantCase,
    .identifierCase, .align]

/-- The name that the setting is written with. -/
def name : Field → String
  | .lineWidth => "line_width"
  | .indentSize => "indent_size"
  | .indentStyle => "indent_style"
  | .lineEnding => "end_of_line"
  | .keywordCase => "keyword_case"
  | .constantCase => "constant_case"
  | .identifierCase => "identifier_case"
  | .align => "align"

/-- What is set under the name. -/
def ofName? (name : String) : Option Field := all.find? (·.name == name)

theorem ofName?_name (f : Field) : ofName? f.name = some f := by cases f <;> decide

end Field

/-- The name of the case. -/
def Casing.name : Casing → String
  | .lower => "lower"
  | .upper => "upper"
  | .preserve => "preserve"

/-- The name of the characters that indent. -/
def IndentStyle.name : IndentStyle → String
  | .spaces => "spaces"
  | .tabs => "tabs"

/-- The name of the characters that end a line. -/
def LineEnding.name : LineEnding → String
  | .lf => "lf"
  | .crlf => "crlf"

/-- A choice for one of the options. -/
inductive Setting where
  | lineWidth (columns : Nat)
  | indentSize (columns : Nat)
  | indentStyle (style : IndentStyle)
  | lineEnding (ending : LineEnding)
  | keywordCase (casing : Casing)
  | constantCase (casing : Casing)
  | identifierCase (casing : Casing)
  | align (aligned : Bool)
deriving DecidableEq, Repr

namespace Setting

/-- What is set. -/
def field : Setting → Field
  | .lineWidth _ => .lineWidth
  | .indentSize _ => .indentSize
  | .indentStyle _ => .indentStyle
  | .lineEnding _ => .lineEnding
  | .keywordCase _ => .keywordCase
  | .constantCase _ => .constantCase
  | .identifierCase _ => .identifierCase
  | .align _ => .align

/-- The options with the setting made. -/
def apply (o : Options) : Setting → Options
  | .lineWidth n => { o with lineWidth := n }
  | .indentSize n => { o with indentSize := n }
  | .indentStyle s => { o with indentStyle := s }
  | .lineEnding e => { o with lineEnding := e }
  | .keywordCase c => { o with keywordCase := c }
  | .constantCase c => { o with constantCase := c }
  | .identifierCase c => { o with identifierCase := c }
  | .align b => { o with align := b }

/-- A name between double quotes. -/
def quoted (name : String) : String := "\"" ++ name ++ "\""

/-- The value as it is written. -/
def value : Setting → String
  | .lineWidth n | .indentSize n => toString n
  | .indentStyle s => quoted s.name
  | .lineEnding e => quoted e.name
  | .keywordCase c | .constantCase c | .identifierCase c => quoted c.name
  | .align b => toString b

/-- The line that the setting is written on. -/
def line (s : Setting) : String := s.field.name ++ " = " ++ s.value ++ "\n"

end Setting

namespace Options

/-- The settings that make these options of any others. -/
def settings (o : Options) : List Setting :=
  [.lineWidth o.lineWidth, .indentSize o.indentSize, .indentStyle o.indentStyle,
    .lineEnding o.lineEnding, .keywordCase o.keywordCase, .constantCase o.constantCase,
    .identifierCase o.identifierCase, .align o.align]

/-- The options with the settings made one after the other. -/
def withSettings (o : Options) (settings : List Setting) : Options := settings.foldl Setting.apply o

/-- The lines of all settings, in the order of the fields. -/
def text (o : Options) : String := String.join (o.settings.map Setting.line)

theorem withSettings_settings (o o' : Options) : o'.withSettings o.settings = o := by
  simp [withSettings, settings, Setting.apply]

theorem map_field_settings (o : Options) : o.settings.map Setting.field = Field.all := by
  simp [settings, Setting.field, Field.all]

end Options

end VhdlLayout
