import VhdlLayout.Command.Diagnostic

/-!
# Commands

What the user of the command line can ask for, and how it is asked. The first
argument names the command, or is a flag that asks for the version. Of the
others, those that begin with a dash are flags, up to a double dash; the rest
are operands. A flag may stand anywhere among the operands, but not twice, and
no operand may be empty.
-/

namespace VhdlLayout

/-- What the user asks for. -/
inductive Command where
  /-- Tell whether the file `formatted` denotes the same program as the file `original`. -/
  | verify (original formatted : String) (style : ReportStyle)
  /-- Show the options that a file sets, or else the default ones. -/
  | config (path : Option String)
  /-- Tell the version of this program. -/
  | version
deriving DecidableEq, Repr

/-- The arguments after the name of a command. -/
structure Arguments where
  flags : List String
  operands : List String
deriving DecidableEq, Repr

namespace Arguments

/-- The argument is a flag, where flags may stand. -/
def isFlag (argument : String) : Bool := argument.startsWith "-" && argument != "-"

/-- The flag asks for the version. Letters behind the short flag are flags of their own, which are
not looked at any more. -/
def isVersion (flag : String) : Bool := flag == "--version" || flag.startsWith "-V"

/-- The flags and operands among the arguments. -/
def ofList : List String → Arguments
  | [] => ⟨[], []⟩
  | "--" :: rest => ⟨[], rest⟩
  | a :: rest =>
    match ofList rest with
    | ⟨flags, operands⟩ => if isFlag a then ⟨a :: flags, operands⟩ else ⟨flags, a :: operands⟩

/-- The flags are among the known ones, none is given twice, and no operand is empty. -/
def areValid (a : Arguments) (known : List String) : Bool :=
  a.flags.all (known.contains ·) && a.flags.Nodup && a.operands.all (· != "")

end Arguments

namespace Command

/-- The style that the flags ask for. -/
def styleOf (flags : List String) : ReportStyle :=
  if flags.contains "--json" then .json
  else if flags.contains "--no-color" then .plain
  else .coloured

/-- The command `verify` with its arguments. -/
def verifyOf? (a : Arguments) : Option Command :=
  match a.operands with
  | [original, formatted] =>
    if a.areValid ["--json", "--no-color"] then some (.verify original formatted (styleOf a.flags))
    else none
  | _ => none

/-- The command `config` with its arguments. -/
def configOf? (a : Arguments) : Option Command :=
  match a.operands with
  | [] => if a.areValid [] then some (.config none) else none
  | [path] => if a.areValid [] then some (.config (some path)) else none
  | _ => none

/-- The command that the arguments ask for, if it is one. -/
def ofArguments? : List String → Option Command
  | "verify" :: arguments => verifyOf? (Arguments.ofList arguments)
  | "config" :: arguments => configOf? (Arguments.ofList arguments)
  | flag :: _ => if Arguments.isVersion flag then some .version else none
  | [] => none

/-- The files that the command reads. -/
def paths : Command → List String
  | .verify original formatted _ => [original, formatted]
  | .config (some path) => [path]
  | .config none | .version => []

end Command

end VhdlLayout
