import VhdlLayout.Doc.Walk

/-!
# Fitting on a line

Whether a document can be laid out on the rest of a line (`Doc.fits`): every
text takes its characters, every soft line end a space, and a hard line end does
not fit at all. Of a union only the flat document counts. What the columns of a
scope may still be padded with does not count.
-/

namespace VhdlLayout.Doc

/-- How many columns the node itself takes on a line. -/
def width : Doc → Nat
  | .text content _ | .keyword content _ => content.length
  | .softLine => 1
  | _ => 0

/-- The node ends the line in any case. -/
def isHardBreak : Doc → Bool
  | .hardLine | .hardLines _ => true
  | _ => false

/-- The flat one of the two documents of a union. -/
def flatBranch? : Doc → Option Doc
  | .union flat _ => some flat
  | _ => none

theorem size_flatBranch {d flat : Doc} (h : d.flatBranch? = some flat) : flat.size < d.size := by
  cases d with
  | union flat broken =>
    cases h
    rw [size]
    omega
  | _ => cases h

/-- The visitor that stops where a document no longer fits; it knows how many columns remain. -/
def fitter : Visitor Int Unit where
  see remaining d :=
    match d.flatBranch? with
    | some flat => (remaining, .into flat)
    | none =>
      if d.isHardBreak then (remaining, .stop ())
      else if remaining - d.width < 0 then (remaining - d.width, .stop ())
      else (remaining - d.width, .descend)
  into_smaller {_ _ _ _} h := by
    split at h
    · next flat hf =>
      cases h
      exact size_flatBranch hf
    · split at h
      · simp at h
      · split at h <;> simp at h

/-- The document can be laid out flat on so many columns. -/
def fits (columns : Int) (d : Doc) : Bool :=
  0 ≤ columns && (fitter.visit columns d).2.isNone

end VhdlLayout.Doc
