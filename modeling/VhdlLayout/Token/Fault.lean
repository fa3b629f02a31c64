import VhdlLayout.Text.Escaped
import VhdlLayout.Text.Span

/-!
# Lexical errors

Why a stretch of text is no token, and how the reason is told.
-/

namespace VhdlLayout

/-- Why a stretch of text is no token. -/
inductive Fault where
  /-- The character begins no token. -/
  | unexpectedCharacter (c : Char)
  /-- The line ends before a string or bit string is closed. -/
  | unterminatedString
  /-- The text ends before a block comment is closed. -/
  | unterminatedBlockComment
  /-- The line ends before an extended identifier is closed. -/
  | unterminatedExtendedIdentifier
  /-- The digits after a base are not followed by a second number sign. -/
  | invalidBasedLiteral (text : String)
deriving DecidableEq, Repr

/-- The reason in words. -/
def Fault.message : Fault → String
  | .unexpectedCharacter c => "unexpected character: " ++ Escaped.quoteChar c
  | .unterminatedString => "unterminated string literal"
  | .unterminatedBlockComment => "unterminated block comment"
  | .unterminatedExtendedIdentifier => "unterminated extended identifier"
  | .invalidBasedLiteral text => "invalid based literal: " ++ text

/-- A fault and the stretch of text that has it. -/
structure LexicalError where
  fault : Fault
  span : Span
deriving DecidableEq, Repr

end VhdlLayout
