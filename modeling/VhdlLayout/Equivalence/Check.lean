import VhdlLayout.Equivalence.Stream
import VhdlLayout.Unicode.Lowercase

/-!
# Equivalence of programs

Whether a formatted text denotes the same program as the original one. The
relevant tokens of both are walked side by side: they must be the same but for
the case of their letters. The formatted text may have more of two kinds of
tokens:

* reserved words that may be added to a program (`Word.isOptional`);
* identifiers that stand where the original goes on with something else, as the
  label of a unit does at its end. Whether such an identifier names the unit is
  not looked into.

A pair of tokens that is the same is always taken as such; only then is an added
token considered. The first token that has no counterpart is reported
(`Divergence`).
-/

namespace VhdlLayout

/-- One of the two texts that are compared. -/
inductive Side where
  | original
  | formatted
deriving DecidableEq, Repr

namespace Side

/-- The other text. -/
def other : Side → Side
  | .original => .formatted
  | .formatted => .original

/-- The side in words. -/
def name : Side → String
  | .original => "original"
  | .formatted => "formatted"

end Side

/-- Where two texts part. -/
inductive Divergence where
  /-- Two tokens at corresponding places differ. -/
  | mismatch (original formatted : Sighting)
  /-- One text has a token left where the other has come to its end. -/
  | leftover (side : Side) (token : Sighting)
deriving DecidableEq, Repr

namespace Divergence

/-- The divergence in words. -/
def message : Divergence → String
  | .mismatch original formatted =>
    "semantic mismatch: original " ++ original.describe ++ " vs formatted " ++ formatted.describe
  | .leftover side token =>
    "content imbalance: " ++ side.name ++ " text has leftover token " ++ token.describe

/-- The text that the report points into first. -/
def side : Divergence → Side
  | .mismatch _ _ => .formatted
  | .leftover side _ => side

/-- The token that the report points at first. -/
def token : Divergence → Sighting
  | .mismatch _ formatted => formatted
  | .leftover _ token => token

end Divergence

/-- Where two lists of tokens part. -/
inductive Parting where
  /-- The first tokens not yet matched differ. -/
  | mismatch (original formatted : Token)
  /-- Only one list has a token left. -/
  | leftover (side : Side) (token : Token)
deriving DecidableEq, Repr

namespace Parting

/-- Where the relevant tokens `original` and `formatted` part, if they do. Tokens match if `same`
holds of them. -/
def find? (same : Token → Token → Bool) : (original formatted : List Token) → Option Parting
  | [], formatted =>
    match formatted.dropWhile (·.kind.isOptional) with
    | [] => none
    | f :: _ => some (.leftover .formatted f)
  | o :: _, [] => some (.leftover .original o)
  | o :: os, f :: fs =>
    if same o f then find? same os fs
    else if f.kind.isOptional then find? same (o :: os) fs
    else if f.kind.isIdentifier && !o.kind.isIdentifier then find? same (o :: os) fs
    else some (.mismatch o f)

/-- The parting of two streams as it is reported. -/
def report (original formatted : TokenStream) : Parting → Divergence
  | .mismatch o f => .mismatch (original.sight o) (formatted.sight f)
  | .leftover .original t => .leftover .original (original.sight t)
  | .leftover .formatted t => .leftover .formatted (formatted.sight t)

end Parting

namespace TokenStream

/-- The tokens are the same but for the case of their letters. Reserved words of one kind are. -/
def sameToken (original formatted : TokenStream) (o f : Token) : Bool :=
  o.kind == f.kind &&
    (o.kind.isWord || Unicode.sameIgnoringCase (original.text o) (formatted.text f))

/-- Where `formatted` parts from `original` in a way that formatting may not, if it does. -/
def divergence? (original formatted : TokenStream) : Option Divergence :=
  (Parting.find? (sameToken original formatted) original.relevant formatted.relevant).map
    (Parting.report original formatted)

end TokenStream

/-- Where the text `formatted` parts from the text `original` in a way that formatting may not, if
it does. -/
def divergence? (original formatted : String) : Option Divergence :=
  (TokenStream.read original).divergence? (TokenStream.read formatted)

end VhdlLayout
