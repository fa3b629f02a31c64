import VhdlLayout.Doc.Layout
import VhdlLayout.Equivalence.Check
import VhdlLayout.Files

/-!
# Verified output

A document is laid out and the result compared with the original text before
anything else is done with it. Only a text that denotes the same program as the
original is given out (`Doc.format`), and only such a text is ever written to a
file (`Files.rewriteVerified`). A text that equals the original is not written.

What comes of a write is not known beforehand: a disk may be full, a file locked.
So the writing itself is given from outside (`Files.rewriteVerifiedBy`). A write
that fails leaves the files as they are.
-/

namespace VhdlLayout

/-- The document laid out, if the text denotes the same program as `original`. -/
def Doc.format (d : Doc) (original : String) (o : Options) : Except Divergence String :=
  match divergence? original (d.print o) with
  | some divergence => .error divergence
  | none => .ok (d.print o)

/-- What has been done with a file. -/
inductive Outcome where
  /-- Nothing: the text is the original one. -/
  | unchanged
  | written
deriving DecidableEq, Repr

/-- Why a file has not been written. -/
inductive Refusal where
  /-- The text does not denote the same program as the original. -/
  | diverges (divergence : Divergence)
  /-- The file at `path` cannot be written. -/
  | unwritable (path : String) (error : FileError)
deriving DecidableEq, Repr

/-- The refusal in words. -/
def Refusal.message : Refusal → String
  | .diverges divergence => divergence.message
  | .unwritable path error => "failed to write " ++ path ++ ": " ++ error.message

/-- A way to put a text into the file at a path: the files after that, or why it cannot be done. -/
abbrev Writer := Files → (path text : String) → Except FileError Files

/-- The document laid out and written to the file at `path` by `write`, if it denotes the same
program as `original` and differs from it; and the files after that. -/
def Files.rewriteVerifiedBy (write : Writer) (files : Files) (path original : String) (d : Doc)
    (o : Options) : Except Refusal Outcome × Files :=
  match d.format original o with
  | .error divergence => (.error (.diverges divergence), files)
  | .ok text =>
    if text = original then (.ok .unchanged, files)
    else
      match write files path text with
      | .error e => (.error (.unwritable path e), files)
      | .ok files' => (.ok .written, files')

/-- The document laid out and written to the file at `path` in the store, if it denotes the same
program as `original` and differs from it; and the files after that. -/
def Files.rewriteVerified (files : Files) (path original : String) (d : Doc) (o : Options) :
    Except Refusal Outcome × Files :=
  files.rewriteVerifiedBy Files.write path original d o

end VhdlLayout
