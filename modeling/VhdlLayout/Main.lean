import VhdlLayout.Command.Response

/-!
# The program

Reads the files that the command line names, and writes what the response to the
command says.
-/

namespace VhdlLayout

/-- Why the operating system refuses to read a file. Some calls negate the code. -/
def FileError.ofSystem : IO.Error → FileError
  | .noFileOrDirectory .. => .notFound
  | .inappropriateType _ code _ => if code = 21 then .isDirectory else .notDirectory
  | .invalidArgument file code details =>
    if code = 36 ∨ code + 36 = 0 then .nameTooLong
    else .other (toString (IO.Error.invalidArgument file code details))
  | e => .other (toString e)

/-- What comes of reading the file at `path`. -/
def readText (path : String) : IO (Except FileError String) := do
  try
    match String.fromUTF8? (← IO.FS.readBinFile path) with
    | some content => pure (.ok content)
    | none => pure (.error .notText)
  catch e => pure (.error (.ofSystem e))

/-- Does what the arguments ask for and gives the status. -/
def run (arguments : List String) : IO UInt32 := do
  let command := Command.ofArguments? arguments
  let contents ← (command.elim [] Command.paths).mapM fun path => do
    pure (path, ← readText path)
  let read : ReadFile := fun path => (contents.lookup path).getD (.error .notFound)
  let response := command.elim Response.usage (·.respond read)
  IO.print response.output
  response.diagnostics.forM IO.eprintln
  pure (UInt32.ofNat response.status)

end VhdlLayout

/-- The entry point of the program. -/
def main (arguments : List String) : IO UInt32 := VhdlLayout.run arguments
