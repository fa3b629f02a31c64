import VhdlLayout.Doc.Columns
import VhdlLayout.Doc.Fits
import VhdlLayout.Options.Basic

/-!
# Laying out documents

A document is laid out on a page (`Page`): the text so far and the column behind
it. What is still to be laid out is a list of tasks (`Task`), each a document
with the indentation of its lines and the mode of its soft line ends. Each turn
takes the first task and either puts it on the page or splits it into smaller
ones (`Task.turn`), until no task is left (`Work.finish`).

A union is laid out by its flat document if that fits the rest of the line, or
if the union itself stands in something flat; otherwise by its broken one. A
scope is laid out with its columns made equally wide when its turn has come, so
a scope within a scope is resolved after the outer one.

Columns are numbers of 64 bits (`Column`), and so is the room that is left on a line,
with a sign (`Options.room`). No line that is ever read has so many columns; but
options may ask for them.

Each turn leaves fewer scopes or, among as many, fewer nodes; thus the work ends
(`Work.next?_decreases`).
-/

namespace VhdlLayout

/-- How the soft line ends of a document are laid out. -/
inductive Mode where
  /-- As spaces. -/
  | flat
  /-- As new lines. -/
  | broken
deriving DecidableEq, Repr

/-- A column, or a number of columns. A sum that takes more than 64 bits starts again at zero. -/
abbrev Column := UInt64

/-- How many columns of a line are left behind `column`; less than none if the line is too long.
Widths and columns that take all 64 bits are taken for numbers below zero. -/
def Options.room (o : Options) (column : Column) : Int :=
  ((UInt64.ofNat o.lineWidth).toInt64 - column.toInt64).toInt

/-- A document that is still to be laid out. -/
structure Task where
  /-- The column at which its new lines begin. -/
  indent : Column
  mode : Mode
  doc : Doc
deriving DecidableEq, Repr

/-- What has been laid out. -/
structure Page where
  text : String
  /-- How many columns the text takes on its last line. -/
  column : Column
deriving DecidableEq, Repr

namespace Page

/-- A page on which nothing has been laid out. -/
def blank : Page := ⟨"", 0⟩

/-- The page with a text behind what is there. -/
def put (page : Page) (text : String) : Page :=
  ⟨page.text ++ text, page.column + .ofNat text.length⟩

/-- The page with a new line that begins at the given column. -/
def newLine (page : Page) (o : Options) (indent : Column) : Page :=
  ⟨page.text ++ o.lineEnding.text ++ o.indentation indent.toNat, indent⟩

/-- The page with so many new lines. -/
def newLines (page : Page) (o : Options) (indent : Column) : Nat → Page
  | 0 => page
  | count + 1 => (page.newLine o indent).newLines o indent count

/-- How many columns are left on the last line. -/
def remaining (page : Page) (o : Options) : Int := o.room page.column

end Page

namespace Task

/-- What the task makes of the page, and the tasks that take its place. -/
def turn (o : Options) (page : Page) (task : Task) : Page × List Task :=
  match task.doc with
  | .empty => (page, [])
  | .text content _ => (page.put content, [])
  | .keyword content _ => (page.put (o.keywordCase.apply content), [])
  | .softLine =>
    match task.mode with
    | .flat => (page.put " ", [])
    | .broken => (page.newLine o task.indent, [])
  | .hardLine => (page.newLine o task.indent, [])
  | .hardLines count => (page.newLines o task.indent count, [])
  | .cat left right => (page, [⟨task.indent, task.mode, left⟩, ⟨task.indent, task.mode, right⟩])
  | .nest child => (page, [⟨task.indent + .ofNat o.indentSize, task.mode, child⟩])
  | .hang child => (page, [⟨page.column, task.mode, child⟩])
  | .align child => (page, [⟨task.indent, task.mode, child.scopeContent o.align⟩])
  | .union flat broken =>
    if task.mode = .flat ∨ flat.fits (page.remaining o) then
      (page, [⟨task.indent, .flat, flat⟩])
    else (page, [⟨task.indent, .broken, broken⟩])

theorem turn_union_flat {o : Options} {page : Page} {mode : Mode} {flat : Doc}
    (h : mode = .flat ∨ flat.fits (page.remaining o)) (indent : Column) (broken : Doc) :
    turn o page ⟨indent, mode, .union flat broken⟩ = (page, [⟨indent, .flat, flat⟩]) := if_pos h

theorem turn_union_broken {o : Options} {page : Page} {mode : Mode} {flat : Doc}
    (h : ¬(mode = .flat ∨ flat.fits (page.remaining o))) (indent : Column)
    (broken : Doc) :
    turn o page ⟨indent, mode, .union flat broken⟩ = (page, [⟨indent, .broken, broken⟩]) := if_neg h

/-- The scopes in the tasks. -/
def totalScopes : List Task → Nat
  | [] => 0
  | task :: tasks => task.doc.scopes + totalScopes tasks

/-- The nodes in the tasks. -/
def totalNodes : List Task → Nat
  | [] => 0
  | task :: tasks => task.doc.size + totalNodes tasks

@[simp] theorem totalScopes_nil : totalScopes [] = 0 := rfl

@[simp] theorem totalScopes_cons (task : Task) (tasks : List Task) :
    totalScopes (task :: tasks) = task.doc.scopes + totalScopes tasks := rfl

@[simp] theorem totalScopes_append (tasks rest : List Task) :
    totalScopes (tasks ++ rest) = totalScopes tasks + totalScopes rest := by
  induction tasks with
  | nil => exact (Nat.zero_add _).symm
  | cons task tasks ih =>
    rw [List.cons_append, totalScopes_cons, totalScopes_cons, ih, Nat.add_assoc]

@[simp] theorem totalNodes_nil : totalNodes [] = 0 := rfl

@[simp] theorem totalNodes_cons (task : Task) (tasks : List Task) :
    totalNodes (task :: tasks) = task.doc.size + totalNodes tasks := rfl

@[simp] theorem totalNodes_append (tasks rest : List Task) :
    totalNodes (tasks ++ rest) = totalNodes tasks + totalNodes rest := by
  induction tasks with
  | nil => exact (Nat.zero_add _).symm
  | cons task tasks ih => rw [List.cons_append, totalNodes_cons, totalNodes_cons, ih, Nat.add_assoc]

/-- The tasks that take the place of a task hold fewer scopes or, among as many, fewer nodes. -/
theorem turn_decreases (o : Options) (page : Page) (task : Task) :
    totalScopes (task.turn o page).2 < task.doc.scopes ∨
      totalScopes (task.turn o page).2 = task.doc.scopes ∧
        totalNodes (task.turn o page).2 < task.doc.size := by
  fun_cases turn o page task <;> simp_all [Doc.scopes, Doc.size] <;> omega

end Task

/-- The layout at work: the page so far, and the tasks that are left, the next one first. -/
structure Work where
  page : Page
  tasks : List Task
deriving DecidableEq, Repr

namespace Work

/-- A document to be laid out from the start of a line, with soft line ends broken. -/
def start (d : Doc) : Work := ⟨.blank, [⟨0, .broken, d⟩]⟩

/-- The work after the next turn. There is no next turn when no task is left. -/
def next? (o : Options) (w : Work) : Option Work :=
  match w.tasks with
  | [] => none
  | task :: rest =>
    let (page, tasks) := task.turn o w.page
    some ⟨page, tasks ++ rest⟩

theorem next?_cons (o : Options) (page : Page) (task : Task) (rest : List Task) :
    next? o ⟨page, task :: rest⟩ =
      some ⟨(task.turn o page).1, (task.turn o page).2 ++ rest⟩ := rfl

/-- Each turn leaves fewer scopes or, among as many, fewer nodes. -/
theorem next?_decreases {o : Options} {w w' : Work} (h : w.next? o = some w') :
    Prod.Lex (· < ·) (· < ·) (Task.totalScopes w'.tasks, Task.totalNodes w'.tasks)
      (Task.totalScopes w.tasks, Task.totalNodes w.tasks) := by
  obtain ⟨page, tasks⟩ := w
  cases tasks with
  | nil => cases h
  | cons task rest =>
    rw [next?_cons, Option.some.injEq] at h
    subst h
    have fewer := task.turn_decreases o page
    simp only [Prod.lex_def, Task.totalScopes_append, Task.totalNodes_append,
      Task.totalScopes_cons, Task.totalNodes_cons]
    omega

/-- The page after all turns. -/
def finish (o : Options) (w : Work) : Page :=
  match _h : w.next? o with
  | none => w.page
  | some w' => w'.finish o
termination_by (Task.totalScopes w.tasks, Task.totalNodes w.tasks)
decreasing_by exact next?_decreases _h

theorem finish_nil (o : Options) (page : Page) : finish o ⟨page, []⟩ = page := by
  rw [finish]
  rfl

/-- To finish the work after a turn is to finish the work. -/
theorem finish_of_next? {o : Options} {w w' : Work} (h : w.next? o = some w') :
    w.finish o = w'.finish o := by
  rw [finish]
  split
  · next hnone => cases hnone.symm.trans h
  · next next hsome => rw [Option.some.inj (hsome.symm.trans h)]

end Work

/-- The document laid out from the start of a line, with soft line ends broken. -/
def Doc.print (d : Doc) (o : Options) : String := ((Work.start d).finish o).text

end VhdlLayout
