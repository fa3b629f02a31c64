import Mathlib
import VhdlLayout.Proofs.Doc.OneLine

/-!
# What it means to fit

Whether a document fits is decided by a walk that stops as soon as it knows. What it
decides is what the layout does: a document fits if nothing on its line ends the line
in any case, and if no more characters come of it than there are columns, when it is
laid out flat and its columns are not aligned.

* `Doc.flatWidth?_eq_none_iff`: a document has a width unless a hard line end is on
  its line;
* `Doc.meter_visit`: a walk that stops nowhere measures that width, so to stop early
  changes nothing about the answer;
* `Doc.exists_finish_flat`: as many characters are put on the page;
* `Doc.fits_concat_iff`: together, documents fit the columns that they fit one by one.
-/

namespace VhdlLayout.Doc

open Relation

variable {d e : Doc} {n : Nat} {columns : Int}

/-! ## Hard line ends -/

/-- The documents directly below the node that stand on its line: the flat one of a union, and all
children of another node. -/
def flatChildren : Doc → List Doc
  | .union flat _ => [flat]
  | d => d.children

/-- The document `e` stands in `d`, and in no document that a union offers for broken lines. -/
def HasFlat : Doc → Doc → Prop := ReflTransGen fun d e => e ∈ d.flatChildren

/-- What stands in a document is the document itself or stands in one below it. -/
theorem exists_hasFlat_iff {p : Doc → Prop} :
    (∃ e, d.HasFlat e ∧ p e) ↔ p d ∨ ∃ child ∈ d.flatChildren, ∃ e, child.HasFlat e ∧ p e := by
  constructor
  · rintro ⟨e, he, hp⟩
    rcases he.cases_head with rfl | ⟨child, hchild, he⟩
    · exact .inl hp
    · exact .inr ⟨child, hchild, e, he, hp⟩
  · rintro (hp | ⟨child, hchild, e, he, hp⟩)
    · exact ⟨d, .refl, hp⟩
    · exact ⟨e, he.head hchild, hp⟩

theorem flatWidth?_cat_eq_none {left right : Doc} :
    (Doc.cat left right).flatWidth? = none ↔ left.flatWidth? = none ∨ right.flatWidth? = none := by
  rw [flatWidth?]
  cases left.flatWidth? <;> cases right.flatWidth? <;> simp

/-- A document can stand on one line unless a hard line end stands in it. -/
theorem flatWidth?_eq_none_iff :
    d.flatWidth? = none ↔ ∃ e, d.HasFlat e ∧ e.isHardBreak = true := by
  induction d with
  | cat left right ihl ihr =>
    rw [exists_hasFlat_iff, flatWidth?_cat_eq_none, ihl, ihr]
    simp [flatChildren, children, isHardBreak]
  | union flat broken ihf _ =>
    rw [exists_hasFlat_iff, flatWidth?, ihf]
    simp [flatChildren, isHardBreak]
  | nest child ih | hang child ih | align child ih =>
    rw [exists_hasFlat_iff, flatWidth?, ih]
    simp [flatChildren, children, isHardBreak]
  | _ =>
    rw [exists_hasFlat_iff]
    simp [flatWidth?, flatChildren, children, isHardBreak]

theorem isHardBreak_eq_false_iff :
    d.isHardBreak = false ↔ d ≠ .hardLine ∧ ∀ count, d ≠ .hardLines count := by
  cases d <;> simp [isHardBreak]

theorem exists_flatWidth?_iff :
    (∃ n, d.flatWidth? = some n) ↔
      ∀ e, d.HasFlat e → e ≠ .hardLine ∧ ∀ count, e ≠ .hardLines count := by
  rw [← Option.ne_none_iff_exists', Ne, flatWidth?_eq_none_iff, not_exists]
  simp only [not_and, Bool.not_eq_true, isHardBreak_eq_false_iff]

/-! ## Measuring without stopping -/

/-- The visitor that measures a document to its end, whether or not there is room for it. Nothing is
measured any more once the line has ended. -/
def meter : Visitor (Option Nat) Empty where
  see measured d :=
    match d.flatBranch? with
    | some flat => (measured, .into flat)
    | none => (if d.isHardBreak then none else measured.map (· + d.width), .descend)
  into_smaller {_ _ _ _} h := by
    split at h
    · next flat hflat =>
      cases h
      exact size_flatBranch hflat
    · cases h

/-- A node that takes no room itself is gone into with what has been measured. -/
theorem meter_run_inner (hflat : d.flatBranch? = none) (hbreak : d.isHardBreak = false)
    (hwidth : d.width = 0) (measured : Option Nat) (ds : List Doc) :
    meter.run measured (d :: ds) = meter.run measured (d.children ++ ds) :=
  Visitor.run_cons_of_descend (by simp [meter, hflat, hbreak, hwidth]) ds

theorem meter_run_cons (d : Doc) (measured : Option Nat) (ds : List Doc) :
    meter.run measured (d :: ds) = meter.run (do return (← measured) + (← d.flatWidth?)) ds := by
  induction d generalizing measured ds with
  | cat left right ihl ihr =>
    rw [meter_run_inner rfl rfl rfl, flatWidth?]
    refine (ihl measured (right :: ds)).trans ((ihr _ ds).trans (congrArg (meter.run · ds) ?_))
    cases measured <;> cases left.flatWidth? <;> cases right.flatWidth? <;> simp [Nat.add_assoc]
  | union flat broken ih _ =>
    rw [Visitor.run_cons_of_into rfl]
    exact ih measured ds
  | nest child ih | hang child ih | align child ih =>
    rw [meter_run_inner rfl rfl rfl]
    exact ih measured ds
  | _ =>
    rw [Visitor.run_cons_of_descend rfl]
    cases measured <;> rfl

/-- Measured to its end, a document takes its width. -/
theorem meter_visit (d : Doc) : meter.visit (some 0) d = (d.flatWidth?, none) := by
  rw [Visitor.visit, meter_run_cons, Visitor.run]
  cases d.flatWidth? <;> simp

/-! ## Laying out flat -/

/-- Laid out flat, without aligned columns, a document that can stand on one line puts as many
characters on the page as it is wide. -/
theorem exists_finish_flat (d : Doc) {o : Options} (ho : o.align = false) (page : Page)
    (indent : Column) :
    ∃ text column, Work.finish o ⟨page, [⟨indent, .flat, d⟩]⟩ = ⟨page.text ++ text, column⟩ ∧
      ∀ n, d.flatWidth? = some n → text.length = n := by
  have turns := Work.reaches_append_rendering o page ⟨indent, .flat, d⟩ []
  refine ⟨_, _, (Work.finish_of_reaches turns).trans (Work.finish_nil o _), fun n hn => ?_⟩
  obtain ⟨-, hlength, -⟩ := rendering_flat (o := o) hn indent page.column
  rw [Task.rendering, hlength, ho]
  rfl

/-! ## Fitting -/

theorem fits_mono {columns' : Int} (h : columns ≤ columns') (hfits : d.fits columns = true) :
    d.fits columns' = true := by
  obtain ⟨n, hn, hroom⟩ := fits_iff.1 hfits
  exact fits_iff.2 ⟨n, hn, hroom.trans h⟩

/-- Documents that are put together fit the columns that they fit one by one, merged or not. -/
theorem fits_concat_iff :
    (concat d e).fits columns = true ↔
      ∃ left right : Int, left + right = columns ∧ d.fits left = true ∧ e.fits right = true := by
  simp only [fits_iff, isReading_flatWidth?.concat]
  constructor
  · rintro ⟨n, hn, hroom⟩
    obtain ⟨l, r, hl, hr, rfl⟩ := flatWidth?_cat_eq_some.1 hn
    -- The right document may have all that the left one leaves.
    refine ⟨l, columns - l, by omega, ⟨l, hl, le_rfl⟩, r, hr, ?_⟩
    rw [Nat.cast_add] at hroom
    omega
  · rintro ⟨left, right, rfl, ⟨l, hl, hleft⟩, r, hr, hright⟩
    refine ⟨l + r, flatWidth?_cat_eq_some.2 ⟨l, r, hl, hr, rfl⟩, ?_⟩
    rw [Nat.cast_add]
    omega

/-- *Fitting is exact.* A document fits if there are columns at all, if no hard line end stands in
it outside of what is meant for broken lines, and if no more characters are put on the page,
wherever on it, when the document is laid out flat and its columns are not aligned. So it makes no
difference that the walk stops as soon as it knows; what fits does so with more columns, too; and
together, documents fit the columns that they fit one by one. -/
theorem fits_exact (d : Doc) :
    (∀ (o : Options) (page : Page) (indent : Column), o.align = false →
      ∃ text column, Work.finish o ⟨page, [⟨indent, .flat, d⟩]⟩ = ⟨page.text ++ text, column⟩ ∧
        ∀ columns : Int, d.fits columns = true ↔
          0 ≤ columns ∧ (∀ e, d.HasFlat e → e ≠ .hardLine ∧ ∀ count, e ≠ .hardLines count) ∧
            (text.length : Int) ≤ columns) ∧
    (∀ columns : Int, d.fits columns = true ↔
      ∃ n : Nat, meter.visit (some 0) d = (some n, none) ∧ (n : Int) ≤ columns) ∧
    (∀ columns columns' : Int, columns ≤ columns' → d.fits columns = true →
      d.fits columns' = true) ∧
    ∀ (e : Doc) (columns : Int), (concat d e).fits columns = true ↔
      ∃ left right : Int, left + right = columns ∧ d.fits left = true ∧ e.fits right = true := by
  refine ⟨fun o page indent ho => ?_, fun columns => ?_, fun _ _ => fits_mono,
    fun _ _ => fits_concat_iff⟩
  · obtain ⟨text, column, hfinish, hlength⟩ := exists_finish_flat d ho page indent
    refine ⟨text, column, hfinish, fun columns => ?_⟩
    rw [fits_iff, ← exists_flatWidth?_iff]
    constructor
    · rintro ⟨n, hn, hroom⟩
      rw [hlength n hn]
      exact ⟨(Int.natCast_nonneg n).trans hroom, ⟨n, hn⟩, hroom⟩
    · rintro ⟨-, ⟨n, hn⟩, hroom⟩
      rw [hlength n hn] at hroom
      exact ⟨n, hn, hroom⟩
  · simp only [fits_iff, meter_visit, Prod.mk.injEq, and_true]

/-- A union within a union, somewhere on a line: of the scope in it the texts count, but not the
space that would be put behind the shorter one. -/
theorem fits_exact_scope :
    let inner := Doc.union (.align (.cat (.text "a" (some 0)) (.keyword "in" (some 0)))) .hardLine
    let d := Doc.union (.cat inner .softLine) (.hardLines 0)
    let o : Options := { align := false, keywordCase := .upper }
    o.align = false ∧ d.fits 4 = true ∧ d.fits 7 = true ∧
      ∃ text column, Work.finish o ⟨⟨"x", 1⟩, [⟨4, .flat, d⟩]⟩ = ⟨"x" ++ text, column⟩ ∧
        ∀ columns : Int, d.fits columns = true ↔
          0 ≤ columns ∧ (∀ e, d.HasFlat e → e ≠ .hardLine ∧ ∀ count, e ≠ .hardLines count) ∧
            (text.length : Int) ≤ columns := by
  intro inner d o
  have hfits : d.fits 4 = true := fits_iff.2 ⟨4, by decide, by decide⟩
  obtain ⟨laidOut, -, wider, -⟩ := fits_exact d
  exact ⟨rfl, hfits, wider 4 7 (by decide) hfits, laidOut o ⟨"x", 1⟩ 4 rfl⟩

end VhdlLayout.Doc
