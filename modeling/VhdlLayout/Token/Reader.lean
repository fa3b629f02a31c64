import VhdlLayout.Token.Basic
import VhdlLayout.Token.Lexeme

/-!
# Reading tokens

A source text is read token by token. A reader (`Reader`) stands between two
tokens: it knows the text that is left, the offset at which that text starts,
and the kind of the last token that was no comment. Each step (`Reader.next?`)
skips blanks and takes one lexeme. Where no text is left it gives the token of
kind `eof`, once, and nothing after it. Offsets are those of the source in bytes;
32 bits hold them all if they can count its bytes.

Reading a whole source (`Token.readAll`) never fails. Malformed text gives
tokens of kind `error`, each with its fault (`lexicalErrors`).
-/

namespace VhdlLayout

/-- A token and, if it is malformed, why. -/
structure Reading where
  token : Token
  fault : Option Fault
deriving DecidableEq, Repr

/-- Where the reading of a source has got to. -/
structure Reader where
  /-- The text that is still to be read. -/
  rest : List Char
  /-- The offset in the source at which that text starts. -/
  offset : Nat
  /-- The kind of the last token that is no comment. -/
  previous : Option Kind
  /-- The end of the source has been reported. -/
  finished : Bool
deriving DecidableEq, Repr

namespace Reader

/-- The start of a source. -/
def ofSource (source : String) : Reader := ⟨source.toList, 0, none, false⟩

/-- The kind of the last token that is no comment, after a token of kind `kind`. -/
def previousAfter (previous : Option Kind) (kind : Kind) : Option Kind :=
  if kind = .comment then previous else some kind

/-- The next token and the reader behind it. -/
def next? (r : Reader) : Option (Reading × Reader) :=
  if r.finished then none
  else
    let start := r.offset + byteLength (r.rest.takeWhile isBlank)
    match r.rest.dropWhile isBlank with
    | [] => some (⟨⟨.eof, ⟨start, start⟩⟩, none⟩, ⟨[], start, r.previous, true⟩)
    | c :: cs =>
      let lexeme := Lexeme.read r.previous c cs
      let stop := start + byteLength lexeme.text
      some (⟨⟨lexeme.kind, ⟨start, stop⟩⟩, lexeme.fault⟩,
        ⟨lexeme.rest, stop, previousAfter r.previous lexeme.kind, false⟩)

/-- A bound on how many tokens are still to come. -/
def pending (r : Reader) : Nat := if r.finished then 0 else r.rest.length + 1

theorem next?_pending {r s : Reader} {t : Reading} (h : r.next? = some (t, s)) :
    s.pending < r.pending := by
  rw [next?] at h
  split at h
  · contradiction
  · next hr =>
    have blanks : (r.rest.dropWhile isBlank).length ≤ r.rest.length :=
      (List.dropWhile_suffix isBlank).length_le
    dsimp only at h
    split at h
    · next hrest =>
      simp only [Option.some.injEq, Prod.mk.injEq] at h
      simp [pending, ← h.2, hr]
    · next c cs hrest =>
      simp only [Option.some.injEq, Prod.mk.injEq] at h
      have shorter := Lexeme.read_rest_length r.previous c cs
      rw [hrest] at blanks
      simp only [pending, ← h.2, hr, Bool.false_eq_true, if_false]
      omega

/-- All that is still to be read. -/
def readings (r : Reader) : List Reading :=
  match _h : r.next? with
  | none => []
  | some (t, s) => t :: s.readings
termination_by r.pending
decreasing_by exact next?_pending _h

/-- The results of the next `count` steps. -/
def nexts (r : Reader) : Nat → List (Option Reading)
  | 0 => []
  | count + 1 =>
    match r.next? with
    | none => none :: r.nexts count
    | some (t, s) => some t :: s.nexts count

end Reader

/-- All that a source holds. -/
def readings (source : String) : List Reading := (Reader.ofSource source).readings

/-- The tokens of a source, in order. The last one, and only that, is of kind `eof`. -/
def Token.readAll (source : String) : List Token := (readings source).map Reading.token

/-- The error of a malformed token. -/
def Reading.error? (r : Reading) : Option LexicalError :=
  r.fault.map fun fault => ⟨fault, r.token.span⟩

/-- The errors of a source, in order. -/
def lexicalErrors (source : String) : List LexicalError :=
  (readings source).filterMap Reading.error?

end VhdlLayout
