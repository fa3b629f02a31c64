/-!
# Documents

A document says how a text may be laid out without saying how it is: pieces of
text, places where lines may or must end, indentation, a choice between two
renderings of the same content, and scopes within which columns are aligned.

Documents are trees. What a node is apart from its children is its head
(`Doc.head`), and a document is its head and its children (`Doc.children`). In
memory they are held by handles, so that documents share what they have in common
(`Handles`).

The functions of `VhdlLayout.Doc.Concat` build documents in normal form; the
constructors of the type itself do not look at their arguments.
-/

namespace VhdlLayout

/-- Layout intent. -/
inductive Doc where
  /-- Nothing. -/
  | empty
  /-- Literal text on one line. Within the nearest scope around it the text belongs to the column
  `level`, if it has one. -/
  | text (content : String) (level : Option Nat)
  /-- Literal text whose letters take the case that is chosen for reserved words. -/
  | keyword (content : String) (level : Option Nat)
  /-- A space, or a new line where lines are broken. -/
  | softLine
  /-- A new line. -/
  | hardLine
  /-- As many new lines as `count` tells. None at all still breaks the lines around it. -/
  | hardLines (count : Nat)
  /-- One document, then another. -/
  | cat (left right : Doc)
  /-- A document indented by one unit more. -/
  | nest (child : Doc)
  /-- A document indented to the column at which it begins. -/
  | hang (child : Doc)
  /-- Two renderings of the same content: `flat` if it fits the line, and `broken` if not. -/
  | union (flat broken : Doc)
  /-- A scope within which columns are aligned. -/
  | align (child : Doc)
deriving DecidableEq, Repr

/-- A node without its children. -/
inductive Head where
  | empty
  | text (content : String) (level : Option Nat)
  | keyword (content : String) (level : Option Nat)
  | softLine
  | hardLine
  | hardLines (count : Nat)
  | cat
  | nest
  | hang
  | union
  | align
deriving DecidableEq, Repr

namespace Doc

/-- What the node is, apart from its children. -/
def head : Doc → Head
  | .empty => .empty
  | .text content level => .text content level
  | .keyword content level => .keyword content level
  | .softLine => .softLine
  | .hardLine => .hardLine
  | .hardLines count => .hardLines count
  | .cat _ _ => .cat
  | .nest _ => .nest
  | .hang _ => .hang
  | .union _ _ => .union
  | .align _ => .align

/-- The documents directly below the node, from left to right, the flat one of a union first. -/
def children : Doc → List Doc
  | .cat left right => [left, right]
  | .union flat broken => [flat, broken]
  | .nest child | .hang child | .align child => [child]
  | _ => []

/-- The document is nothing at all. -/
def isEmpty : Doc → Bool
  | .empty => true
  | _ => false

/-- The number of nodes. A document that occurs twice counts twice. -/
def size : Doc → Nat
  | .cat left right => left.size + right.size + 1
  | .union flat broken => flat.size + broken.size + 1
  | .nest child | .hang child | .align child => child.size + 1
  | _ => 1

/-- The number of nodes of several documents. -/
def totalSize : List Doc → Nat
  | [] => 0
  | d :: ds => d.size + totalSize ds

@[simp] theorem totalSize_nil : totalSize [] = 0 := rfl

@[simp] theorem totalSize_cons (d : Doc) (ds : List Doc) :
    totalSize (d :: ds) = d.size + totalSize ds := rfl

@[simp] theorem totalSize_append (ds es : List Doc) :
    totalSize (ds ++ es) = totalSize ds + totalSize es := by
  induction ds with
  | nil => exact (Nat.zero_add _).symm
  | cons d ds ih => rw [List.cons_append, totalSize_cons, totalSize_cons, ih, Nat.add_assoc]

/-- A document has one node more than its children have together. -/
theorem size_eq (d : Doc) : d.size = totalSize d.children + 1 := by
  cases d <;> simp [size, children]

theorem size_pos (d : Doc) : 0 < d.size := by
  rw [size_eq]; omega

/-- A document is its head and its children. -/
theorem eq_of_head_children {a b : Doc} (hh : a.head = b.head) (hc : a.children = b.children) :
    a = b := by
  cases a <;> cases b <;> simp_all [head, children]

/-- Nodes with equal heads have equally many children. -/
theorem length_children {a b : Doc} (h : a.head = b.head) :
    a.children.length = b.children.length := by
  cases a <;> cases b <;> simp_all [head, children]

/-- What holds of a document if it holds of its children holds of every document. -/
theorem children_induction {P : Doc → Prop} (step : ∀ d, (∀ child ∈ d.children, P child) → P d)
    (d : Doc) : P d := by
  induction d with
  | cat left right ihl ihr | union left right ihl ihr =>
    exact step _ (List.forall_mem_cons.2 ⟨ihl, List.forall_mem_singleton.2 ihr⟩)
  | nest child ih | hang child ih | align child ih =>
    exact step _ (List.forall_mem_singleton.2 ih)
  | _ => exact step _ fun _ h => absurd h List.not_mem_nil

end Doc

/-- Documents as they are held in memory. A handle points at a node, and the node holds the handles
of its children. Where the same handle is held more than once, the node is shared; and nodes that
are not the same may still be equal. -/
structure Handles (ι : Type) where
  /-- The document that begins with the node of the handle. -/
  doc : ι → Doc
  /-- The handles that the node holds, from left to right. -/
  children : ι → List ι
  /-- They point at the children of the node. -/
  map_doc_children (h : ι) : (children h).map doc = (doc h).children

end VhdlLayout
