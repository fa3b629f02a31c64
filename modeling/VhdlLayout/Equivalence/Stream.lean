import VhdlLayout.Text.Lines
import VhdlLayout.Token.Reader

/-!
# Token streams

A source text together with tokens of it. Most often these are all its tokens
(`TokenStream.read`), but any list of tokens will do. Two streams are compared
by their relevant tokens, which are all but comments and the end.

A token is reported to the user as a sighting: its text, its kind and where it
stands.
-/

namespace VhdlLayout

/-- A source text and tokens of it. -/
structure TokenStream where
  source : String
  tokens : List Token
deriving DecidableEq, Repr

/-- A token as it is reported: how it is written and where it stands. -/
structure Sighting where
  text : String
  kind : Kind
  /-- The place at which the token begins. -/
  position : Position
  span : Span
deriving DecidableEq, Repr

/-- The token in words. -/
def Sighting.describe (s : Sighting) : String :=
  "'" ++ s.text ++ "' (" ++ s.kind.name ++ ") at line " ++ toString s.position.line

namespace TokenStream

/-- All tokens of a source. -/
def read (source : String) : TokenStream := ⟨source, Token.readAll source⟩

/-- The tokens that carry meaning. -/
def relevant (s : TokenStream) : List Token := s.tokens.filter fun t => !t.kind.isTrivia

/-- How a token of the stream is written. -/
def text (s : TokenStream) (t : Token) : String := t.text s.source

/-- A token of the stream as it is reported. -/
def sight (s : TokenStream) (t : Token) : Sighting :=
  ⟨s.text t, t.kind, (Lines.ofSource s.source).position t.span.start, t.span⟩

end TokenStream

end VhdlLayout
