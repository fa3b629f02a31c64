import VhdlLayout.Text.Span
import VhdlLayout.Token.Kind

/-!
# Tokens

A token is its kind and the stretch of source text that it covers.
-/

namespace VhdlLayout

/-- A stretch of source text and what it is. -/
structure Token where
  kind : Kind
  span : Span
deriving DecidableEq, Repr

/-- The text of the token in the source that it was read from. -/
def Token.text (t : Token) (source : String) : String := t.span.text source

end VhdlLayout
