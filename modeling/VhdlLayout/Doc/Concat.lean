import VhdlLayout.Doc.Basic

/-!
# Putting documents together

Documents are put together in normal form: nothing is ever concatenated with
the empty document, two pieces of plain text never stand side by side, nor two
plain reserved words, nor two runs of hard line ends. Such neighbours become
one leaf (`Doc.merge?`).

Only the last leaf of the left document and the first leaf of the right one can
become neighbours, so concatenation (`Doc.concat`) looks at these two alone. It
puts the merged leaf in the place of the first one, and the right document so
changed in the place of the last one. Text that belongs to a column is never
merged.
-/

namespace VhdlLayout.Doc

/-- As many hard line ends as `count` tells, a single one in its own form. -/
def hardBreaks (count : Nat) : Doc := if count = 1 then .hardLine else .hardLines count

/-- How many hard line ends the leaf stands for, if it stands for any. -/
def hardRun? : Doc → Option Nat
  | .hardLine => some 1
  | .hardLines count => some count
  | _ => none

/-- The one leaf that two neighbouring leaves become, if they are of a kind. -/
def merge? : Doc → Doc → Option Doc
  | .text a none, .text b none => some (.text (a ++ b) none)
  | .keyword a none, .keyword b none => some (.keyword (a ++ b) none)
  | a, b =>
    match a.hardRun?, b.hardRun? with
    | some m, some n => some (hardBreaks (m + n))
    | _, _ => none

/-- What the document ends with: the node that its right spine leads to. -/
def last : Doc → Doc
  | .cat _ right => right.last
  | d => d

/-- What the document begins with: the node that its left spine leads to. -/
def first : Doc → Doc
  | .cat left _ => left.first
  | d => d

/-- The document with `e` in the place of what it ends with. -/
def replaceLast : Doc → Doc → Doc
  | .cat left right, e => .cat left (right.replaceLast e)
  | _, e => e

/-- The document with `e` in the place of what it begins with. -/
def replaceFirst : Doc → Doc → Doc
  | .cat left right, e => .cat (left.replaceFirst e) right
  | _, e => e

/-- One document, then another. -/
def concat (left right : Doc) : Doc :=
  if left.isEmpty then right
  else if right.isEmpty then left
  else
    match merge? left.last right.first with
    | some leaf => left.replaceLast (right.replaceFirst leaf)
    | none => .cat left right

instance : Append Doc := ⟨concat⟩

/-- Documents one after the other. -/
def concatAll (ds : List Doc) : Doc := ds.foldl concat .empty

/-- Documents one after the other, with `sep` between each two. -/
def join (sep : Doc) : List Doc → Doc
  | [] => .empty
  | d :: ds => ds.foldl (fun out e => concat (concat out sep) e) (concat .empty d)

/-- A document that may be missing. -/
def optional (d : Option Doc) : Doc := d.getD .empty

theorem concat_empty_left (d : Doc) : concat .empty d = d := rfl

end VhdlLayout.Doc
