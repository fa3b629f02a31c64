/-!
# Spans

A stretch of a source text, by the offsets of its ends in bytes of the UTF-8
encoding. Tokens carry their span only; their text is cut out of the source
(`Span.text`). A span that begins after its end, leaves the source or splits a
character has no text (`Span.text?`).

Offsets are natural numbers here. The program keeps them in 32 bits, which tell
them as long as the source takes less than 2^32 bytes.
-/

namespace VhdlLayout

/-- How many bytes the characters take in UTF-8. -/
def byteLength (cs : List Char) : Nat := cs.foldr (fun c bytes => c.utf8Size + bytes) 0

/-- The bytes of a text from `start` on, up to but without the one at `stop`. -/
structure Span where
  start : Nat
  stop : Nat
deriving DecidableEq, Repr

namespace Span

/-- How many bytes the span covers. -/
def length (s : Span) : Nat := s.stop - s.start

/-- The span covers nothing. -/
def isEmpty (s : Span) : Bool := s.start == s.stop

/-- What the source holds between the ends of the span. -/
def text (s : Span) (source : String) : String :=
  String.Pos.Raw.extract source ⟨s.start⟩ ⟨s.stop⟩

/-- The ends of the span are in order and lie between characters of the source. -/
def isIn (s : Span) (source : String) : Bool :=
  s.start ≤ s.stop && String.Pos.Raw.isValid source ⟨s.start⟩
    && String.Pos.Raw.isValid source ⟨s.stop⟩

/-- What the source holds between the ends of the span, if they lie between its characters. -/
def text? (s : Span) (source : String) : Option String :=
  if s.isIn source then some (s.text source) else none

end Span

end VhdlLayout
