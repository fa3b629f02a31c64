import VhdlLayout.Doc.Concat

/-!
# Changing documents

A pass over a document keeps the nodes it does not change: where nothing below a
node changes, the result is that very node. A change is therefore told as an
optional document (`Change`), and a node is rebuilt, in normal form, only if one
of its children changes (`Doc.rebuild`).

A rewrite goes through a document from the top (`Doc.rewrite`). For each node it
decides (`Rewrite`) to keep it with all that is below, to put another document
in its place, or to go on with its children and rebuild it from what becomes of
them. Neither what is kept nor what is put in place is looked into.

The pass keeps its work in two lists: the nodes still to be looked at or rebuilt
(`Frame`), and the changes of finished nodes, the last one first. To rebuild a
node is to take the changes of its children off that second list.
`rewrite_eq_rewriteTree` says that this amounts to the plain recursion over the
tree (`Doc.rewriteTree`), and `rewriteTree_induction` how to show something of
every change that the recursion makes.
-/

namespace VhdlLayout

/-- What becomes of a document: another document, or `none` if it stays the very same. -/
abbrev Change := Option Doc

/-- What a rewrite does with a node. -/
inductive Rewrite where
  /-- The node stays, with all that is below it. -/
  | keep
  /-- Another document takes the place of the node. -/
  | replace (d : Doc)
  /-- The node is rebuilt from what becomes of its children. -/
  | descend
deriving DecidableEq, Repr

/-- A piece of work of a rewrite. -/
inductive Frame where
  /-- The node is to be looked at. -/
  | visit (d : Doc)
  /-- All children of the node are finished. -/
  | build (d : Doc)
deriving DecidableEq, Repr

/-- How many turns a piece of work takes at most. -/
def Frame.work : Frame → Nat
  | .visit d => 2 * d.size
  | .build _ => 1

/-- How many turns several pieces of work take at most. -/
def Frame.totalWork : List Frame → Nat
  | [] => 0
  | frame :: frames => frame.work + totalWork frames

@[simp] theorem Frame.totalWork_cons (frame : Frame) (frames : List Frame) :
    totalWork (frame :: frames) = frame.work + totalWork frames := rfl

@[simp] theorem Frame.totalWork_append (frames rest : List Frame) :
    totalWork (frames ++ rest) = totalWork frames + totalWork rest := by
  induction frames with
  | nil => exact (Nat.zero_add _).symm
  | cons frame frames ih => rw [List.cons_append, totalWork_cons, totalWork_cons, ih, Nat.add_assoc]

theorem Frame.totalWork_visit (ds : List Doc) :
    totalWork (ds.map .visit) = 2 * Doc.totalSize ds := by
  induction ds with
  | nil => rfl
  | cons d ds ih => simp [ih, work]; omega

namespace Doc

/-- The node that `make` builds if its only child changes. -/
def rebuildOne (make : Doc → Doc) (change : Change) : Change := change.map make

/-- The node that `make` builds if one of its two children changes. -/
def rebuildTwo (make : Doc → Doc → Doc) (left right : Doc) : Change → Change → Change
  | none, none => none
  | a, b => some (make (a.getD left) (b.getD right))

/-- What becomes of a node if its children change as told, from left to right. Children about which
nothing is told stay as they are. -/
def rebuild (d : Doc) (changes : List Change) : Change :=
  match d with
  | .cat left right =>
    rebuildTwo concat left right (changes.getD 0 none) (changes.getD 1 none)
  | .union flat broken =>
    rebuildTwo .union flat broken (changes.getD 0 none) (changes.getD 1 none)
  | .nest _ => rebuildOne .nest (changes.getD 0 none)
  | .hang _ => rebuildOne .hang (changes.getD 0 none)
  | .align _ => rebuildOne .align (changes.getD 0 none)
  | _ => none

/-- What becomes of a node if `f` tells what becomes of each child. -/
def mapChildren (f : Doc → Change) (d : Doc) : Change := d.rebuild (d.children.map f)

variable {σ : Type}

/-- The rest of a rewrite, given what is still to be done and what is finished, last first. -/
def rewriteLoop (f : σ → Doc → σ × Rewrite) (s : σ) (frames : List Frame) (done : List Change) :
    σ × List Change :=
  match frames with
  | [] => (s, done)
  | .build d :: rest =>
    let count := d.children.length
    rewriteLoop f s rest (d.rebuild (done.take count).reverse :: done.drop count)
  | .visit d :: rest =>
    match f s d with
    | (s', .keep) => rewriteLoop f s' rest (none :: done)
    | (s', .replace e) => rewriteLoop f s' rest (some e :: done)
    | (s', .descend) => rewriteLoop f s' (d.children.map .visit ++ .build d :: rest) done
termination_by Frame.totalWork frames
decreasing_by
  · simp [Frame.work]
  · have := size_pos d
    simp [Frame.work]; omega
  · have := size_pos d
    simp [Frame.work]; omega
  · have := size_eq d
    simp [Frame.work, Frame.totalWork_visit]; omega

/-- What becomes of the document in a rewrite, and the state in which the rewrite ends. -/
def rewrite (f : σ → Doc → σ × Rewrite) (s : σ) (d : Doc) : σ × Change :=
  let (s', done) := rewriteLoop f s [.visit d] []
  (s', done.headD none)

/-! ## The recursion over the tree -/

/-- What becomes of the document and the state, by recursion: first the node is seen, then, if the
rewrite goes on, its children from left to right. -/
def rewriteTree (f : σ → Doc → σ × Rewrite) (d : Doc) (s : σ) : σ × Change :=
  match f s d with
  | (s, .keep) => (s, none)
  | (s, .replace e) => (s, some e)
  | (s, .descend) =>
    match d with
    | .cat left right =>
      let (s, a) := rewriteTree f left s
      let (s, b) := rewriteTree f right s
      (s, (Doc.cat left right).rebuild [a, b])
    | .union flat broken =>
      let (s, a) := rewriteTree f flat s
      let (s, b) := rewriteTree f broken s
      (s, (Doc.union flat broken).rebuild [a, b])
    | .nest child =>
      let (s, a) := rewriteTree f child s
      (s, (Doc.nest child).rebuild [a])
    | .hang child =>
      let (s, a) := rewriteTree f child s
      (s, (Doc.hang child).rebuild [a])
    | .align child =>
      let (s, a) := rewriteTree f child s
      (s, (Doc.align child).rebuild [a])
    | _ => (s, none)

theorem rewriteLoop_build (f : σ → Doc → σ × Rewrite) (d : Doc) (s : σ) (rest : List Frame)
    (done : List Change) :
    rewriteLoop f s (.build d :: rest) done =
      rewriteLoop f s rest
        (d.rebuild (done.take d.children.length).reverse :: done.drop d.children.length) := by
  rw [rewriteLoop]

/-- A node on the list of frames adds what the recursion makes of it to the finished changes. -/
theorem rewriteLoop_visit (f : σ → Doc → σ × Rewrite) (d : Doc) (s : σ) (rest : List Frame)
    (done : List Change) :
    rewriteLoop f s (.visit d :: rest) done =
      rewriteLoop f (rewriteTree f d s).1 rest ((rewriteTree f d s).2 :: done) := by
  induction d generalizing s rest done with
  | cat _ _ ihl ihr | union _ _ ihl ihr =>
    rw [rewriteLoop, rewriteTree]
    split <;> simp_all [children, rewriteLoop_build]
  | nest _ ih | hang _ ih | align _ ih =>
    rw [rewriteLoop, rewriteTree]
    split <;> simp_all [children, rewriteLoop_build]
  | _ =>
    rw [rewriteLoop, rewriteTree]
    split <;> simp_all [children, rewriteLoop_build, rebuild]

/-- A rewrite is the recursion over the tree. -/
theorem rewrite_eq_rewriteTree (f : σ → Doc → σ × Rewrite) (s : σ) (d : Doc) :
    rewrite f s d = rewriteTree f d s := by
  rw [rewrite, rewriteLoop_visit, rewriteLoop]
  rfl

/-- What holds of every node that is kept, of every node that is replaced, and of every node that is
rebuilt if it holds of the children, holds of whatever becomes of a document in a rewrite. -/
theorem rewriteTree_induction {P : Doc → Change → Prop} {f : σ → Doc → σ × Rewrite}
    (keep : ∀ d, P d none)
    (replace : ∀ s d s' e, f s d = (s', .replace e) → P d (some e))
    (descend : ∀ d changes, changes.length = d.children.length →
      (∀ p ∈ d.children.zip changes, P p.1 p.2) → P d (d.rebuild changes))
    (d : Doc) (s : σ) : P d (rewriteTree f d s).2 := by
  induction d generalizing s with
  | cat left right ihl ihr | union left right ihl ihr =>
    rw [rewriteTree]
    split
    · exact keep _
    · next h => exact replace _ _ _ _ h
    · exact descend _ [_, _] rfl (by simp [children, ihl, ihr])
  | nest child ih | hang child ih | align child ih =>
    rw [rewriteTree]
    split
    · exact keep _
    · next h => exact replace _ _ _ _ h
    · exact descend _ [_] rfl (by simp [children, ih])
  | _ =>
    rw [rewriteTree]
    split
    · exact keep _
    · next h => exact replace _ _ _ _ h
    · exact keep _

end Doc

end VhdlLayout
