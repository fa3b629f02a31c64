import Mathlib
import VhdlLayout.Proofs.Casing
import VhdlLayout.Proofs.Doc.Pieces
import VhdlLayout.Proofs.Doc.Reading
import VhdlLayout.Proofs.Doc.Rendering

/-!
# Documents laid out one behind the other

What a document comes to when it is laid out depends on the indentation, the mode and
the column at which it starts (`Layout`). Of two documents the second one starts where
the first one ends (`Layout.andThen`). Merging does not change that: a merged leaf is
laid out as the two leaves that it is made of. So the layout of a document is read off
it leaf by leaf like so much else (`Doc.isReading_layout`), and that of a concatenation
is known from its sides, in normal form or not.

At the left margin some documents come to the same text wherever in the line they start
(`Layout.Writes`). Any number of these with another one between each two come to their
texts with its text between each two (`Doc.IsReading.writes_join`).
-/

namespace VhdlLayout

/-- How something is laid out: its text and the column behind it, given the indentation, the mode
and the column at which it starts. -/
abbrev Layout := Column → Mode → Column → String × Column

/-- One layout behind another. -/
def Layout.andThen (first second : Layout) : Layout := fun indent mode column =>
  let before := first indent mode column
  let behind := second indent mode before.2
  (before.1 ++ behind.1, behind.2)

/-- In lines without indentation the text of the layout is always the same. -/
def Layout.Writes (l : Layout) (text : String) : Prop := ∀ mode column, (l 0 mode column).1 = text

namespace Layout.Writes

variable {first second between : Layout} {s t sep : String}

theorem andThen (hs : first.Writes s) (ht : second.Writes t) :
    (first.andThen second).Writes (s ++ t) :=
  fun mode column => congrArg₂ (· ++ ·) (hs mode column) (ht mode _)

theorem foldl {ι : Type*} {layouts : ι → Layout} {texts : ι → String} {xs : List ι}
    (hsep : between.Writes sep) (hx : ∀ x ∈ xs, (layouts x).Writes (texts x))
    (hs : first.Writes s) :
    (xs.foldl (fun l x => (l.andThen between).andThen (layouts x)) first).Writes
      (sep.intercalate (s :: xs.map texts)) := by
  -- What has been laid out so far is one text, behind which the others come.
  induction xs generalizing first s with
  | nil => rwa [List.map_nil, String.intercalate_singleton]
  | cons x xs ih =>
    obtain ⟨hx, hxs⟩ := List.forall_mem_cons.1 hx
    have hnext := ih hxs ((hs.andThen hsep).andThen hx)
    rwa [String.intercalate_cons_append, ← String.intercalate_cons_cons] at hnext

end Layout.Writes

namespace Doc

variable {d : Doc} {o : Options}

/-- How a document is laid out. -/
def layout (o : Options) (d : Doc) : Layout := fun indent mode column =>
  d.rendering o indent mode column

theorem layout_empty (o : Options) : Doc.empty.layout o = fun _ _ column => ("", column) := by
  funext indent mode column
  rw [layout, rendering]

theorem layout_text (o : Options) (content : String) (level : Option Nat) :
    (Doc.text content level).layout o =
      fun _ _ column => (content, column + .ofNat content.length) := by
  funext indent mode column
  rw [layout, rendering]

theorem layout_keyword (o : Options) (content : String) (level : Option Nat) :
    (Doc.keyword content level).layout o = fun _ _ column =>
      (o.keywordCase.apply content, column + .ofNat (o.keywordCase.apply content).length) := by
  funext indent mode column
  rw [layout, rendering]

theorem layout_softLine (o : Options) : Doc.softLine.layout o = fun indent mode column =>
    match mode with
    | .flat => (" ", column + 1)
    | .broken => (o.lineBreak indent, indent) := by
  funext indent mode column
  rw [layout]
  cases mode <;> rw [rendering]

theorem layout_nest (o : Options) (child : Doc) : (Doc.nest child).layout o =
    fun indent mode column => child.layout o (indent + .ofNat o.indentSize) mode column := by
  funext indent mode column
  rw [layout, rendering, layout]

theorem layout_hang (o : Options) (child : Doc) : (Doc.hang child).layout o =
    fun _ mode column => child.layout o column mode column := by
  funext indent mode column
  rw [layout, rendering, layout]

theorem layout_align (o : Options) (child : Doc) :
    (Doc.align child).layout o = (child.scopeContent o.align).layout o := by
  funext indent mode column
  rw [layout, rendering, layout]

theorem layout_union (o : Options) (flat broken : Doc) : (Doc.union flat broken).layout o =
    fun indent (mode : Mode) column =>
      if mode = .flat ∨ flat.fits (o.room column) then flat.layout o indent .flat column
      else broken.layout o indent .broken column := by
  funext indent mode column
  rw [layout, rendering, layout, layout]

theorem layout_of_hardRun? {count : Nat} (h : d.hardRun? = some count) :
    d.layout o = fun indent _ column =>
      (String.join (List.replicate count (o.lineBreak indent)),
        if count = 0 then column else indent) := by
  funext indent mode column
  cases d with
  | hardLine =>
    cases h
    rw [layout, rendering]
    simp
  | hardLines count =>
    cases h
    rw [layout, rendering]
  | _ => cases h

/-- Hard line ends behind others are as many as both together. -/
theorem layout_hardBreaks (o : Options) {a b : Doc} {m n : Nat} (ha : a.hardRun? = some m)
    (hb : b.hardRun? = some n) :
    (hardBreaks (m + n)).layout o = (a.layout o).andThen (b.layout o) := by
  rw [layout_of_hardRun? (hardRun?_hardBreaks _), layout_of_hardRun? ha, layout_of_hardRun? hb]
  funext indent mode column
  rw [Layout.andThen, List.replicate_add, String.join_append]
  dsimp only
  by_cases hn : n = 0
  · rw [if_pos hn, hn, Nat.add_zero]
  · rw [if_neg hn, if_neg (by omega)]

/-- The layout of a document is read off it leaf by leaf. -/
theorem isReading_layout (o : Options) : IsReading Layout.andThen (layout o) where
  assoc x y z := by
    funext indent mode column
    simp only [Layout.andThen, String.append_assoc]
  empty_op d := by
    funext indent mode column
    simp only [Layout.andThen, layout_empty, String.empty_append]
  op_empty d := by
    funext indent mode column
    simp only [Layout.andThen, layout_empty, String.append_empty]
  cat left right := by
    funext indent mode column
    exact rendering_cat o indent mode column left right
  merge {a b leaf} h := by
    rcases eq_of_merge? h with ⟨s, t, rfl, rfl, rfl⟩ | ⟨s, t, rfl, rfl, rfl⟩ | ⟨ha, hb, -⟩
    · funext indent mode column
      simp only [Layout.andThen, layout_text, String.length_append, UInt64.ofNat_add,
        UInt64.add_assoc]
    · funext indent mode column
      simp only [Layout.andThen, layout_keyword, Casing.apply_append, String.length_append,
        UInt64.ofNat_add, UInt64.add_assoc]
    · obtain ⟨m, hm⟩ := exists_hardRun?_of_breaks ha
      obtain ⟨n, hn⟩ := exists_hardRun?_of_breaks hb
      rw [Option.some.inj (h.symm.trans (merge?_of_hardRun? hm hn)), layout_hardBreaks o hm hn]

/-! ## Documents with another one between each two -/

theorem writes_empty (o : Options) : (Doc.empty.layout o).Writes "" := by
  intro mode column
  rw [layout_empty]

theorem writes_text (o : Options) (content : String) (level : Option Nat) :
    ((Doc.text content level).layout o).Writes content := by
  intro mode column
  rw [layout_text]

theorem writes_hardLine (o : Options) : (Doc.hardLine.layout o).Writes o.lineEnding.text := by
  intro mode column
  have hindent : o.indentation 0 = "" := by
    rw [Options.indentation]
    cases o.indentStyle with
    | spaces => rfl
    | tabs => simp
  rw [layout, rendering, Options.lineBreak, UInt64.toNat_zero, hindent, String.append_empty]

/-- Whatever layout is read off documents, those that are joined are laid out one behind the other,
with `sep` between each two. -/
theorem IsReading.writes_join {ι : Type*} {reading : Doc → Layout}
    (h : IsReading Layout.andThen reading) (hempty : (reading .empty).Writes "") {sep : Doc}
    {between : String} (hsep : (reading sep).Writes between) {docs : ι → Doc} {texts : ι → String}
    {xs : List ι} (hx : ∀ x ∈ xs, (reading (docs x)).Writes (texts x)) :
    (reading (Doc.join sep (xs.map docs))).Writes (between.intercalate (xs.map texts)) := by
  cases xs with
  | nil => exact hempty
  | cons x xs =>
    obtain ⟨hx, hxs⟩ := List.forall_mem_cons.1 hx
    rw [List.map_cons, h.join, List.foldl_map]
    exact Layout.Writes.foldl hsep hxs hx

end Doc

end VhdlLayout
