import Mathlib
import VhdlLayout.Proofs.Doc.Regrouping

/-!
# Bracketing

Documents can be put together in many ways: one after the other from the left,
as `Doc.concatAll` does, from the right, in halves, and with the empty document
anywhere between them (`Bracketing`). The trees that come of it differ, but their
pieces are the same (`Bracketing.pieces_build`), so they are the same when they
are regrouped. That is preserved by whatever is built around them (`Context`):

* `Context.regrouped_fill`: documents that are the same when regrouped still are
  so in any context;
* `Bracketing.build_alike`: so no bracketing can be told from another, neither by
  what is laid out, nor by what fits a line, nor by the widths of columns.
-/

namespace VhdlLayout

/-! ## Bracketing -/

/-- A way to put documents together: nothing at all, a single document, or two of them that are put
together in some way each. -/
inductive Bracketing where
  | nothing
  | single (d : Doc)
  | pair (left right : Bracketing)

namespace Bracketing

open Doc

/-- The documents that are put together, in order. -/
def docs : Bracketing → List Doc
  | nothing => []
  | single d => [d]
  | pair left right => left.docs ++ right.docs

/-- What comes of it. -/
def build : Bracketing → Doc
  | nothing => .empty
  | single d => d
  | pair left right => concat left.build right.build

theorem isNormal_build {t : Bracketing} (h : ∀ d ∈ t.docs, d.IsNormal) : t.build.IsNormal := by
  induction t with
  | nothing => trivial
  | single d => exact h d List.mem_cons_self
  | pair left right ihl ihr =>
    rw [docs, List.forall_mem_append] at h
    exact isNormal_concat (ihl h.1) (ihr h.2)

/-- The pieces of documents that are put together are their pieces, welded. -/
theorem pieces_build {t : Bracketing} (h : ∀ d ∈ t.docs, d.IsNormal) :
    t.build.pieces = (t.docs.map pieces).foldr weld [] := by
  induction t with
  | nothing => rfl
  | single d => rfl
  | pair left right ihl ihr =>
    rw [docs, List.forall_mem_append] at h
    rw [build, pieces_concat (isNormal_build h.1) (isNormal_build h.2), ihl h.1, ihr h.2, docs,
      List.map_append, foldr_weld_append]

/-- To put documents together from the left is one way. -/
theorem exists_build_eq_concatAll (ds : List Doc) :
    ∃ t : Bracketing, t.docs = ds ∧ t.build = concatAll ds := by
  have from_left (t : Bracketing) :
      ∃ t' : Bracketing, t'.docs = t.docs ++ ds ∧ t'.build = ds.foldl concat t.build := by
    induction ds generalizing t with
    | nil => exact ⟨t, (List.append_nil _).symm, rfl⟩
    | cons d ds ih =>
      obtain ⟨t', hdocs, hbuild⟩ := ih (pair t (single d))
      refine ⟨t', ?_, hbuild⟩
      rw [hdocs, docs, docs, List.append_assoc, List.singleton_append]
  exact from_left nothing

/-- And so is to do it from the right. -/
theorem exists_build_eq_foldr (ds : List Doc) :
    ∃ t : Bracketing, t.docs = ds ∧ t.build = ds.foldr concat .empty := by
  induction ds with
  | nil => exact ⟨nothing, rfl, rfl⟩
  | cons d ds ih =>
    obtain ⟨t, hdocs, hbuild⟩ := ih
    refine ⟨pair (single d) t, ?_, ?_⟩
    · rw [docs, docs, hdocs, List.singleton_append]
    · rw [build, build, hbuild, List.foldr_cons]

end Bracketing

/-! ## Contexts -/

/-- A document in which others are still to be filled in. -/
inductive Context where
  /-- Where the document is filled in. -/
  | hole
  /-- A document that stands around it. -/
  | doc (d : Doc)
  | concat (left right : Context)
  | nest (child : Context)
  | hang (child : Context)
  | union (flat broken : Context)
  | align (child : Context)

namespace Context

open Doc

/-- The documents that stand around the holes. -/
def docs : Context → List Doc
  | hole => []
  | doc d => [d]
  | concat left right | union left right => left.docs ++ right.docs
  | nest child | hang child | align child => child.docs

/-- The context with a document in all its holes. -/
def fill (d : Doc) : Context → Doc
  | hole => d
  | doc e => e
  | concat left right => Doc.concat (left.fill d) (right.fill d)
  | nest child => .nest (child.fill d)
  | hang child => .hang (child.fill d)
  | union flat broken => .union (flat.fill d) (broken.fill d)
  | align child => .align (child.fill d)

variable {a b d : Doc} {c : Context}

theorem isNormal_fill (hc : ∀ e ∈ c.docs, e.IsNormal) (hd : d.IsNormal) :
    (c.fill d).IsNormal := by
  induction c with
  | hole => exact hd
  | doc e => exact hc e List.mem_cons_self
  | concat left right ihl ihr =>
    rw [docs, List.forall_mem_append] at hc
    exact isNormal_concat (ihl hc.1) (ihr hc.2)
  | union flat broken ihf ihb =>
    rw [docs, List.forall_mem_append] at hc
    exact ⟨ihf hc.1, ihb hc.2⟩
  | nest child ih | hang child ih | align child ih => exact ih hc

/-- Documents that are the same when regrouped still are so in any context. -/
theorem regrouped_fill (hc : ∀ e ∈ c.docs, e.IsNormal) (ha : a.IsNormal) (hb : b.IsNormal)
    (h : a.regrouped = b.regrouped) : (c.fill a).regrouped = (c.fill b).regrouped := by
  induction c with
  | hole => exact h
  | doc e => rfl
  | concat left right ihl ihr =>
    rw [docs, List.forall_mem_append] at hc
    rw [fill, fill, regrouped_concat (isNormal_fill hc.1 ha) (isNormal_fill hc.2 ha),
      regrouped_concat (isNormal_fill hc.1 hb) (isNormal_fill hc.2 hb), ihl hc.1, ihr hc.2]
  | union flat broken ihf ihb =>
    rw [docs, List.forall_mem_append] at hc
    rw [fill, fill, regrouped, regrouped, ihf hc.1, ihb hc.2]
  | nest child ih | hang child ih | align child ih =>
    rw [fill, fill, regrouped, regrouped, ih hc]

end Context

/-! ## What comes of a bracketing -/

namespace Doc

variable {a b : Doc}

theorem print_eq_of_regrouped_eq (ha : a.IsNormal) (hb : b.IsNormal)
    (h : a.regrouped = b.regrouped) (o : Options) : a.print o = b.print o := by
  rw [print_eq_rendering, print_eq_rendering, ← rendering_regrouped o ha, h,
    rendering_regrouped o hb]

theorem fits_eq_of_regrouped_eq (h : a.regrouped = b.regrouped) (columns : Int) :
    a.fits columns = b.fits columns := by
  rw [← fits_regrouped, h, fits_regrouped]

theorem measure_eq_of_regrouped_eq (h : a.regrouped = b.regrouped) : a.measure = b.measure := by
  rw [← measure_regrouped, h, measure_regrouped]

end Doc

open Doc

/-- *Bracketing cannot be seen.* What comes of two bracketings of the same documents has the same
pieces, and in any context it is laid out the same under all options, fits into the same columns
and has columns of the same widths. To concatenate all documents from the left is a bracketing, and
so is to do it from the right. And the pieces of a concatenation are those of its sides, where at
most the two that meet have become one. -/
theorem Bracketing.build_alike :
    (∀ s t : Bracketing, s.docs = t.docs → (∀ d ∈ s.docs, Built d) →
      s.build.pieces = t.build.pieces ∧
      ∀ c : Context, (∀ d ∈ c.docs, Built d) →
        (∀ o, (c.fill s.build).print o = (c.fill t.build).print o) ∧
        (∀ columns, (c.fill s.build).fits columns = (c.fill t.build).fits columns) ∧
        (c.fill s.build).measure = (c.fill t.build).measure) ∧
    (∀ ds : List Doc, (∃ t : Bracketing, t.docs = ds ∧ t.build = concatAll ds) ∧
      ∃ t : Bracketing, t.docs = ds ∧ t.build = ds.foldr concat .empty) ∧
    ∀ a b : Doc, Built a → Built b → (concat a b).pieces = weld a.pieces b.pieces := by
  refine ⟨fun s t hdocs hbuilt => ?_, fun ds => ⟨exists_build_eq_concatAll ds,
    exists_build_eq_foldr ds⟩, fun a b ha hb => pieces_concat ha.isNormal hb.isNormal⟩
  have hs : ∀ d ∈ s.docs, d.IsNormal := fun d hd => (hbuilt d hd).isNormal
  have ht : ∀ d ∈ t.docs, d.IsNormal := hdocs ▸ hs
  have hpieces : s.build.pieces = t.build.pieces := by
    rw [pieces_build hs, pieces_build ht, hdocs]
  have hregrouped := regrouped_eq_of_pieces_eq (isNormal_build hs) (isNormal_build ht) hpieces
  refine ⟨hpieces, fun c hc => ?_⟩
  have hdocs : ∀ d ∈ c.docs, d.IsNormal := fun d hd => (hc d hd).isNormal
  have hfill := Context.regrouped_fill hdocs (isNormal_build hs) (isNormal_build ht) hregrouped
  exact ⟨print_eq_of_regrouped_eq (Context.isNormal_fill hdocs (isNormal_build hs))
      (Context.isNormal_fill hdocs (isNormal_build ht)) hfill,
    fits_eq_of_regrouped_eq hfill, measure_eq_of_regrouped_eq hfill⟩

/-- The text in the middle is merged with both its neighbours. The trees differ, but in a scope
where the last text is padded nobody can tell. -/
theorem Bracketing.build_alike_merged_twice :
    let before := Doc.concat .softLine (.text "a" none)
    let behind := Doc.concat (.text "c" none) .softLine
    let s := pair (pair (pair (single before) (single (.text "b" none))) (single behind))
      (single (.text "d" (some 0)))
    let t := pair (single before) (pair nothing (pair (single (.text "b" none))
      (pair (single behind) (single (.text "d" (some 0))))))
    let c := Context.align (.concat (.nest .hole)
      (.concat (.doc .hardLine) (.doc (.text "long" (some 0)))))
    s.docs = t.docs ∧ (∀ d ∈ s.docs, Built d) ∧ (∀ d ∈ c.docs, Built d) ∧
      s.build = .cat (.cat .softLine (.cat (.text "abc" none) .softLine)) (.text "d" (some 0)) ∧
      t.build = .cat .softLine (.cat (.cat (.text "abc" none) .softLine) (.text "d" (some 0))) ∧
      ∀ o, (c.fill s.build).print o = (c.fill t.build).print o := by
  intro before behind s t c
  have built : ∀ d ∈ s.docs, Built d := by
    intro d hd
    fin_cases hd
    · exact .concat .softLine (.text "a")
    · exact .text "b"
    · exact .concat (.text "c") .softLine
    · exact .alignText "d" 0
  have around : ∀ d ∈ c.docs, Built d := by
    intro d hd
    fin_cases hd
    · exact .hardLine
    · exact .alignText "long" 0
  have alike := (Bracketing.build_alike.1 s t rfl built).2 c around
  exact ⟨rfl, built, around, rfl, rfl, alike.1⟩

end VhdlLayout
