import Mathlib
import VhdlLayout.Doc.Layout

/-!
# What a document comes to

The layout works on a list of tasks, one turn after the other. What comes of it
can be told without the list: a document comes to a text and to the column
behind it (`Doc.rendering`), by recursion over the document, given no more than
the indentation, the mode and the column at which it starts. So neither what has
been laid out before nor what is still to come has any part in it.

* `Work.reaches_append_rendering`: from any page and any tasks, the turns lead to the
  page with the rendering of the first task behind what was there, and to the
  other tasks;
* `Work.wellFounded_next?`: no work goes on forever;
* `Doc.print_refines_rendering`: a document is laid out as its rendering, and no
  task is left;
* `Options.room_of_lt`: what a union is measured against is what the line has left,
  unless the width or the column takes all 64 bits; `Doc.exists_rendering_without_room`
  shows what happens then.

Within a scope it is the resolved document that is rendered. That is no part of
the scope, and it may well be larger; but it holds one scope less.
-/

namespace VhdlLayout

/-! ## The room on a line -/

/-- The room on a line is the difference of its width and the column, taken for a number of 64 bits
with a sign. -/
theorem Options.room_eq (o : Options) (column : Column) :
    o.room column = ((o.lineWidth : Int) - column.toNat).bmod (2 ^ 64) := by
  have signed (n : UInt64) : n.toInt64.toInt = (n.toNat : Int).bmod (2 ^ 64) :=
    BitVec.toInt_eq_toNat_bmod n.toBitVec
  rw [room, Int64.toInt_sub, signed, signed, Int.sub_bmod_bmod, Int.bmod_sub_bmod,
    UInt64.toNat_ofNat', Int.natCast_emod]
  exact Int.emod_sub_bmod _ _

/-- It is the difference itself if neither number takes all 64 bits. -/
theorem Options.room_of_lt {o : Options} {column : Column} (hwidth : o.lineWidth < 2 ^ 63)
    (hcolumn : column.toNat < 2 ^ 63) : o.room column = o.lineWidth - column.toNat := by
  rw [room_eq, Int.bmod_eq_of_le]
  · omega
  · omega

/-! ## The recursion -/

/-- A line end and the indentation of the next line. -/
def Options.lineBreak (o : Options) (indent : Column) : String :=
  o.lineEnding.text ++ o.indentation indent.toNat

theorem Options.eq_of_mem_indentation (o : Options) {columns : Nat} {c : Char}
    (h : c ∈ (o.indentation columns).toList) : c = '\t' ∨ c = ' ' := by
  rw [indentation] at h
  split at h
  · rw [String.toList_ofList] at h
    exact .inr (List.eq_of_mem_replicate h)
  · rw [String.toList_ofList, List.mem_append] at h
    exact h.imp List.eq_of_mem_replicate List.eq_of_mem_replicate

/-- The text of a document, and the column behind it, if it starts at `column` in a line and its own
new lines begin at `indent`. -/
def Doc.rendering (o : Options) (indent : Column) (mode : Mode) (column : Column) :
    Doc → String × Column
  | .empty => ("", column)
  | .text content _ => (content, column + .ofNat content.length)
  | .keyword content _ =>
    (o.keywordCase.apply content, column + .ofNat (o.keywordCase.apply content).length)
  | .softLine =>
    match mode with
    | .flat => (" ", column + 1)
    | .broken => (o.lineBreak indent, indent)
  | .hardLine => (o.lineBreak indent, indent)
  | .hardLines count =>
    (String.join (List.replicate count (o.lineBreak indent)), if count = 0 then column else indent)
  | .cat left right =>
    let l := left.rendering o indent mode column
    let r := right.rendering o indent mode l.2
    (l.1 ++ r.1, r.2)
  | .nest child => child.rendering o (indent + .ofNat o.indentSize) mode column
  | .hang child => child.rendering o column mode column
  | .align child => (child.scopeContent o.align).rendering o indent mode column
  | .union flat broken =>
    if mode = .flat ∨ flat.fits (o.room column) then flat.rendering o indent .flat column
    else broken.rendering o indent .broken column
termination_by d => (d.scopes, d.size)
decreasing_by
  all_goals
    simp only [Prod.lex_def, Doc.scopes, Doc.scopes_scopeContent, Doc.size, true_and]
    omega

theorem Doc.rendering_cat (o : Options) (indent : Column) (mode : Mode) (column : Column)
    (left right : Doc) : (Doc.cat left right).rendering o indent mode column =
      ((left.rendering o indent mode column).1 ++
        (right.rendering o indent mode (left.rendering o indent mode column).2).1,
        (right.rendering o indent mode (left.rendering o indent mode column).2).2) := by
  rw [rendering]

/-- The text of a task and the column behind it. -/
def Task.rendering (o : Options) (column : Column) (task : Task) : String × Column :=
  task.doc.rendering o task.indent task.mode column

/-! ## Pages -/

namespace Page

/-- The page with a rendering behind what is there. -/
def append (page : Page) (r : String × Column) : Page := ⟨page.text ++ r.1, r.2⟩

theorem append_append (page : Page) (r r' : String × Column) :
    (page.append r).append r' = page.append (r.1 ++ r'.1, r'.2) := by
  rw [append, append, append, String.append_assoc]

theorem append_nothing (page : Page) : page.append ("", page.column) = page := by
  rw [append, String.append_empty]

theorem newLine_eq_append (page : Page) (o : Options) (indent : Column) :
    page.newLine o indent = page.append (o.lineBreak indent, indent) := by
  rw [newLine, append, Options.lineBreak, String.append_assoc]

theorem newLines_eq_append (page : Page) (o : Options) (indent : Column) (count : Nat) :
    page.newLines o indent count =
      page.append (String.join (List.replicate count (o.lineBreak indent)),
        if count = 0 then page.column else indent) := by
  induction count generalizing page with
  | zero => exact (page.append_nothing).symm
  | succ count ih =>
    rw [newLines, ih, newLine_eq_append, append_append, List.replicate_succ, String.join_cons,
      if_neg count.succ_ne_zero]
    simp only [append, ite_self]

end Page

namespace Work

open StateTransition

variable {o : Options} {page : Page} {task : Task} {rest : List Task}

/-- A turn leads on to the page and the tasks that it leaves. -/
theorem reaches_of_turn {w : Work}
    (h : Reaches (next? o) ⟨(task.turn o page).1, (task.turn o page).2 ++ rest⟩ w) :
    Reaches (next? o) ⟨page, task :: rest⟩ w :=
  .head (next?_cons o page task rest) h

/-- Each step is the turn of the first task. -/
theorem exists_task_of_next? {w w' : Work} (h : w' ∈ next? o w) :
    ∃ task rest, w.tasks = task :: rest ∧
      w' = ⟨(task.turn o w.page).1, (task.turn o w.page).2 ++ rest⟩ := by
  obtain ⟨page, tasks⟩ := w
  cases tasks with
  | nil => cases h
  | cons task rest =>
    rw [Option.mem_def, next?_cons, Option.some.injEq] at h
    exact ⟨task, rest, rfl, h.symm⟩

/-- *The turns follow the recursion.* Whatever the page and the tasks that wait, the turns put the
rendering of the first task on the page and then come to the next one. -/
theorem reaches_append_rendering (o : Options) (page : Page) (task : Task) (rest : List Task) :
    Reaches (next? o) ⟨page, task :: rest⟩ ⟨page.append (task.rendering o page.column), rest⟩ := by
  obtain ⟨indent, mode, doc⟩ := task
  rw [Task.rendering]
  dsimp only
  generalize hcolumn : page.column = column
  -- The induction is that of the recursion; for all pages and tasks, since both change on the way.
  fun_induction Doc.rendering o indent mode column doc generalizing page rest with
  | case1 =>
    subst hcolumn
    rw [page.append_nothing]
    exact reaches_of_turn .refl
  | case2 | case3 | case4 =>
    subst hcolumn
    exact reaches_of_turn .refl
  | case5 | case6 =>
    rw [← Page.newLine_eq_append]
    exact reaches_of_turn .refl
  | case7 =>
    subst hcolumn
    rw [← Page.newLines_eq_append]
    exact reaches_of_turn .refl
  | case8 indent mode column left right l r ihl ihr =>
    -- While the left document is laid out the right one waits, before whatever waits already.
    have hleft := ihl page (⟨indent, mode, right⟩ :: rest) hcolumn
    have hright := ihr (page.append l) rest rfl
    rw [Page.append_append] at hright
    exact reaches_of_turn (hleft.trans hright)
  | case9 indent mode column child ih => exact reaches_of_turn (ih page rest hcolumn)
  | case10 indent mode column child ih =>
    subst hcolumn
    exact reaches_of_turn (ih page rest rfl)
  | case11 indent mode column child ih => exact reaches_of_turn (ih page rest hcolumn)
  | case12 indent mode column flat broken h ih =>
    subst hcolumn
    refine reaches_of_turn ?_
    rw [Task.turn_union_flat h]
    exact ih page rest rfl
  | case13 indent mode column flat broken h ih =>
    subst hcolumn
    refine reaches_of_turn ?_
    rw [Task.turn_union_broken h]
    exact ih page rest rfl

/-- No work goes on forever: each turn leaves fewer scopes or fewer nodes. -/
theorem wellFounded_next? (o : Options) : WellFounded fun w' w => next? o w = some w' :=
  Subrelation.wf (fun h => next?_decreases h)
    (InvImage.wf (fun w : Work => (Task.totalScopes w.tasks, Task.totalNodes w.tasks))
      (WellFounded.prod_lex Nat.lt_wfRel.wf Nat.lt_wfRel.wf))

theorem finish_of_reaches {w w' : Work} (h : Reaches (next? o) w w') :
    w.finish o = w'.finish o := by
  induction h using Relation.ReflTransGen.head_induction_on with
  | refl => rfl
  | head hstep _ ih => rw [finish_of_next? hstep, ih]

end Work

/-- A document is laid out as its rendering. -/
theorem Doc.print_eq_rendering (d : Doc) (o : Options) :
    d.print o = (d.rendering o 0 .broken 0).1 := by
  have turns := Work.reaches_append_rendering o .blank ⟨0, .broken, d⟩ []
  rw [print, Work.start, Work.finish_of_reaches turns, Work.finish_nil]
  exact String.empty_append

/-- *The layout loop ends and does what the recursion says.* No run goes on forever. The one that
begins with a document ends with no task left and the rendering of the document on the page, which
is what the document is laid out as. And wherever in a run a task has its turn, it adds its own
rendering to the page and leaves the tasks that wait. The room that a union is measured against is
the difference of the width and the column as 64 bits hold it. -/
theorem Doc.print_refines_rendering (d : Doc) (o : Options) :
    WellFounded (fun w' w => Work.next? o w = some w') ∧
    (∃ page, ⟨page, []⟩ ∈ StateTransition.eval (Work.next? o) (Work.start d) ∧
      (page.text, page.column) = d.rendering o 0 .broken 0 ∧ d.print o = page.text) ∧
    (∀ (page : Page) (indent : Column) (mode : Mode) (e : Doc) (rest : List Task),
      StateTransition.Reaches (Work.next? o) ⟨page, ⟨indent, mode, e⟩ :: rest⟩
        ⟨⟨page.text ++ (e.rendering o indent mode page.column).1,
          (e.rendering o indent mode page.column).2⟩, rest⟩) ∧
    ∀ column : Column,
      o.room column = ((o.lineWidth : Int) - column.toNat).bmod (2 ^ 64) := by
  have turns (page : Page) (indent : Column) (mode : Mode) (e : Doc) (rest : List Task) :=
    Work.reaches_append_rendering o page ⟨indent, mode, e⟩ rest
  have whole := turns .blank 0 .broken d []
  refine ⟨Work.wellFounded_next? o, ⟨_, StateTransition.mem_eval.2 ⟨whole, rfl⟩, ?_, ?_⟩, turns,
    o.room_eq⟩
  · rw [Page.append, Page.blank, Task.rendering, String.empty_append]
  · rw [print, Work.start, Work.finish_of_reaches whole, Work.finish_nil]

/-- In 64 bits the difference is not always what is left of the line. Behind an indentation that is
far wider than the line nothing fits, but the flat document of a union is what is laid out there. -/
theorem Doc.exists_rendering_without_room :
    let flat := Doc.text "a" none
    let broken := Doc.text "b" none
    let d := Doc.nest (.nest (.nest (.cat .hardLine (.union flat broken))))
    let o : Options := { lineWidth := 80, indentSize := 2 ^ 62, indentStyle := .tabs }
    let column : Column := 3 * 2 ^ 62
    (Doc.hardLine.rendering o column .broken 0 = ("\n\t\t\t", column)) ∧
    flat.fits ((o.lineWidth : Int) - column.toNat) = false ∧
    broken.rendering o column .broken column = ("b", column + 1) ∧
    (Doc.union flat broken).rendering o column .broken column = ("a", column + 1) ∧
    d.print o = "\n\t\t\ta" := by
  intro flat broken d o column
  have hroom : o.room column = 2 ^ 62 + 80 := by decide +kernel
  have hfits : flat.fits (o.room column) = true := by rw [hroom]; cbv
  have hunion : (Doc.union flat broken).rendering o column .broken column = ("a", column + 1) := by
    rw [rendering, if_pos (.inr hfits), rendering]
    rfl
  have hbreak : Doc.hardLine.rendering o column .broken 0 = ("\n\t\t\t", column) := by cbv
  refine ⟨hbreak, by decide +kernel, by cbv, hunion, ?_⟩
  have hindent : (0 : Column) + .ofNat o.indentSize + .ofNat o.indentSize + .ofNat o.indentSize =
    column := by decide +kernel
  rw [print_eq_rendering, rendering, rendering, rendering, rendering_cat, hindent, hbreak, hunion]
  rfl

end VhdlLayout
