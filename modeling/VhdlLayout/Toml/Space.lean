import VhdlLayout.Toml.Rule

/-!
# Blanks, comments and line ends

What may stand between the parts of a text of settings. Within a line that is
blanks and, at its end, a comment; within an array it is also line ends.
-/

namespace VhdlLayout.Toml

/-- Spaces and tabs. -/
def isBlank (c : Char) : Bool := c == ' ' || c == '\t'

/-- The characters that a comment or a text may hold: all but the controls, of which only the tab is
left. -/
def isTextual (c : Char) : Bool := c == '\t' || ' ' ≤ c && c != '\x7f'

namespace Rule

/-- Takes the blanks that come next. -/
def blanks : Rule Unit := skip (spanning isBlank)

@[simp]
theorem run_blanks (cs : List Char) : blanks.run cs = some ((), cs.dropWhile isBlank) := by
  simp [blanks]

/-- Takes the end of a line. -/
def newline : Rule Unit := exactly "\n" <|> exactly "\r\n"

/-- Takes nothing where no text is left. -/
def ended : Rule Unit
  | [] => some ((), [])
  | _ :: _ => none

/-- Takes a comment, without the end of its line. -/
def comment : Rule Unit := do
  char '#'
  skip (spanning isTextual)

/-- Takes the rest of a line on which nothing more is said. -/
def restOfLine : Rule Unit := do
  blanks
  skip (optional comment)
  newline <|> ended

/-- Takes everything up to the next thing said, across lines. -/
def gap : Rule Unit := skip (many (skip (satisfying isBlank) <|> newline <|> comment))

end Rule

end VhdlLayout.Toml
