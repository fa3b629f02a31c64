import VhdlLayout.Doc.Basic

/-!
# Walking through documents

A visitor sees the nodes of a document one after the other, each before what is
below it and from left to right. After each node it decides what comes next
(`Step`): the children of the node, none of them, another document in their
place, or nothing at all. What it has learnt so far it carries along as a state.

The walk keeps the documents that are still to be visited in a list, so it does
not matter how deep a document is. It ends because a visitor only ever puts a
smaller document in the place of a node's children (`Visitor.into_smaller`). A
walk without this promise is cut off after a number of turns (`visitWithin`).

A fold (`Doc.fold`) sees every node.
-/

namespace VhdlLayout

/-- What comes after a node. -/
inductive Step (β : Type) where
  /-- The children of the node, from left to right. -/
  | descend
  /-- None of the node's children. -/
  | skip
  /-- This document in the place of the node's children. -/
  | into (d : Doc)
  /-- Nothing: the walk ends with this result. -/
  | stop (b : β)

/-- A way to walk through documents. -/
structure Visitor (σ β : Type) where
  /-- What the visitor learns from a node, and what comes next. -/
  see : σ → Doc → σ × Step β
  /-- A document in the place of a node's children is smaller than the node. -/
  into_smaller : ∀ {s s' d e}, see s d = (s', .into e) → e.size < d.size

namespace Visitor

variable {σ β : Type}

/-- The walk through all pending documents. The result is missing if the walk was not stopped. -/
def run (v : Visitor σ β) (s : σ) (pending : List Doc) : σ × Option β :=
  match pending with
  | [] => (s, none)
  | d :: ds =>
    match _h : v.see s d with
    | (s', .descend) => v.run s' (d.children ++ ds)
    | (s', .skip) => v.run s' ds
    | (s', .into e) => v.run s' (e :: ds)
    | (s', .stop b) => (s', some b)
termination_by Doc.totalSize pending
decreasing_by
  · have := Doc.size_eq d
    simp; omega
  · have := Doc.size_pos d
    simp; omega
  · have := v.into_smaller _h
    simp; omega

/-- The walk through one document. -/
def visit (v : Visitor σ β) (s : σ) (d : Doc) : σ × Option β := v.run s [d]

/-- The walk of any visitor through all pending documents, given up after `turns` nodes. -/
def visitWithin (see : σ → Doc → σ × Step β) : Nat → σ → List Doc → Option (σ × Option β)
  | _, s, [] => some (s, none)
  | 0, _, _ :: _ => none
  | turns + 1, s, d :: ds =>
    match see s d with
    | (s', .descend) => visitWithin see turns s' (d.children ++ ds)
    | (s', .skip) => visitWithin see turns s' ds
    | (s', .into e) => visitWithin see turns s' (e :: ds)
    | (s', .stop b) => some (s', some b)

end Visitor

namespace Doc

/-- What `f` makes of all nodes of the pending documents, one after the other. -/
def foldPending {α : Type} (f : α → Doc → α) (a : α) (pending : List Doc) : α :=
  match pending with
  | [] => a
  | d :: ds => foldPending f (f a d) (d.children ++ ds)
termination_by totalSize pending
decreasing_by
  have := Doc.size_eq d
  simp; omega

/-- What `f` makes of all nodes of the document, each before what is below it. -/
def fold {α : Type} (f : α → Doc → α) (a : α) (d : Doc) : α := foldPending f a [d]

/-- The number of nodes, counted by a walk through them. -/
def nodeCount (d : Doc) : Nat := d.fold (fun n _ => n + 1) 0

end Doc

end VhdlLayout
