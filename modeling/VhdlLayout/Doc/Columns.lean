import VhdlLayout.Doc.Rewrite
import VhdlLayout.Doc.Walk

/-!
# Columns

Within a scope, the texts that belong to a column are made equally wide: the
widest text of each column is measured first (`Doc.measure`), and then spaces
are put behind every narrower one (`Doc.resolve`). Neither looks into a scope
within the scope, which has columns of its own.

Widths are counted in characters.
-/

namespace VhdlLayout

/-- The width of each column, by ascending level. -/
abbrev Widths := List (Nat × Nat)

namespace Widths

/-- The width of a column, if the column is there. -/
def width? (ws : Widths) (level : Nat) : Option Nat := ws.lookup level

/-- The widths after a text of the given width in the column `level`. -/
def widen (level width : Nat) : Widths → Widths
  | [] => [(level, width)]
  | (l, w) :: ws =>
    if level < l then (level, width) :: (l, w) :: ws
    else if level = l then (l, max w width) :: ws
    else (l, w) :: widen level width ws

end Widths

namespace Doc

/-- The column that the leaf belongs to and its width there. -/
def cell? : Doc → Option (Nat × Nat)
  | .text content (some level) | .keyword content (some level) => some (level, content.length)
  | _ => none

/-- The document opens a scope. -/
def isScope : Doc → Bool
  | .align _ => true
  | _ => false

/-- The visitor that learns the widths of the columns of a scope. -/
def measurer : Visitor Widths Unit where
  see ws d :=
    if d.isScope then (ws, .skip)
    else
      match d.cell? with
      | some (level, width) => (ws.widen level width, .descend)
      | none => (ws, .descend)
  into_smaller {_ _ _ _} h := by
    split at h
    · simp at h
    · split at h <;> simp at h

/-- The width of the widest text of each column of the scope. -/
def measure (d : Doc) : Widths := (measurer.visit [] d).1

/-- A text of so many spaces. -/
def padding (columns : Nat) : Doc := .text (String.ofList (List.replicate columns ' ')) none

/-- How many columns a text of the given width lacks to the width of its column. -/
def lack (ws : Widths) (level width : Nat) : Nat := (ws.width? level).getD 0 - width

/-- What becomes of a node where columns have the given widths: spaces are put behind a text that
is narrower than its column. -/
def pad (ws : Widths) (d : Doc) : Rewrite :=
  if d.isScope then .keep
  else
    match d.cell? with
    | some (level, width) =>
      if lack ws level width = 0 then .keep
      else .replace (concat d (padding (lack ws level width)))
    | none => .descend

/-- What becomes of a scope whose columns get the given widths. -/
def padAll (ws : Widths) (d : Doc) : Change :=
  if ws.isEmpty then none else (rewrite (fun (_ : Unit) e => ((), pad ws e)) () d).2

/-- What becomes of a scope when its columns are made equally wide. -/
def resolve (d : Doc) : Change := padAll d.measure d

/-- The scope with its columns made equally wide. -/
def resolved (d : Doc) : Doc := d.resolve.getD d

/-- The scope as it is laid out, with its columns made equally wide or left alone. -/
def scopeContent (aligned : Bool) (d : Doc) : Doc := if aligned then d.resolved else d

/-! ## Scopes are kept -/

/-- The number of scopes. -/
def scopes : Doc → Nat
  | .cat left right => left.scopes + right.scopes
  | .union flat broken => flat.scopes + broken.scopes
  | .nest child | .hang child => child.scopes
  | .align child => child.scopes + 1
  | _ => 0

theorem scopes_replaceLast (d e : Doc) :
    (d.replaceLast e).scopes + d.last.scopes = d.scopes + e.scopes := by
  induction d with
  | cat left right _ ih => simp only [replaceLast, last, scopes]; omega
  | _ => simp only [replaceLast, last]; omega

theorem scopes_replaceFirst (d e : Doc) :
    (d.replaceFirst e).scopes + d.first.scopes = d.scopes + e.scopes := by
  induction d with
  | cat left right ih _ => simp only [replaceFirst, first, scopes]; omega
  | _ => simp only [replaceFirst, first]; omega

theorem scopes_merge? {a b leaf : Doc} (h : merge? a b = some leaf) :
    a.scopes = 0 ∧ b.scopes = 0 ∧ leaf.scopes = 0 := by
  revert h
  fun_cases merge? a b <;> intro h
  · cases h; exact ⟨rfl, rfl, rfl⟩
  · cases h; exact ⟨rfl, rfl, rfl⟩
  · next m n ha hb _ _ =>
    have run {d : Doc} {k : Nat} (h : d.hardRun? = some k) : d.scopes = 0 := by
      cases d <;> simp_all [hardRun?, scopes]
    cases h
    refine ⟨run (by assumption), run (by assumption), ?_⟩
    rw [hardBreaks]
    split <;> rfl
  · cases h

/-- Concatenation keeps the scopes of both documents. -/
theorem scopes_concat (a b : Doc) : (concat a b).scopes = a.scopes + b.scopes := by
  rw [concat]
  split
  · next h => cases a <;> simp_all [isEmpty, scopes]
  · split
    · next h => cases b <;> simp_all [isEmpty, scopes]
    · split
      · next leaf h =>
        have leaves := scopes_merge? h
        have l := scopes_replaceLast a (b.replaceFirst leaf)
        have r := scopes_replaceFirst b leaf
        omega
      · rfl

theorem scopes_rebuildTwo {make : Doc → Doc → Doc} {left right d : Doc}
    (hm : ∀ a b, (make a b).scopes = a.scopes + b.scopes)
    (hd : d.scopes = left.scopes + right.scopes) (a b : Change) :
    ((rebuildTwo make left right a b).getD d).scopes =
      (a.getD left).scopes + (b.getD right).scopes := by
  cases a <;> cases b <;> simp [rebuildTwo, hm, hd]

/-- A rewrite that only puts documents with as many scopes in the place of nodes keeps the number of
scopes. -/
theorem scopes_rewriteTree {σ : Type} {f : σ → Doc → σ × Rewrite}
    (hf : ∀ s d s' e, f s d = (s', .replace e) → e.scopes = d.scopes) (d : Doc) (s : σ) :
    ((rewriteTree f d s).2.getD d).scopes = d.scopes := by
  refine rewriteTree_induction (P := fun d change => (change.getD d).scopes = d.scopes)
    (fun _ => rfl) hf (fun d changes hlen h => ?_) d s
  cases d with
  | cat left right =>
    rcases changes with _ | ⟨a, _ | ⟨b, _ | _⟩⟩ <;> cases hlen
    have ha : (a.getD left).scopes = left.scopes := h (left, a) (by simp [children])
    have hb : (b.getD right).scopes = right.scopes := h (right, b) (by simp [children])
    rw [scopes, ← ha, ← hb]
    exact scopes_rebuildTwo scopes_concat rfl a b
  | union flat broken =>
    rcases changes with _ | ⟨a, _ | ⟨b, _ | _⟩⟩ <;> cases hlen
    have ha : (a.getD flat).scopes = flat.scopes := h (flat, a) (by simp [children])
    have hb : (b.getD broken).scopes = broken.scopes := h (broken, b) (by simp [children])
    rw [scopes, ← ha, ← hb]
    exact scopes_rebuildTwo (fun _ _ => rfl) rfl a b
  | nest child | hang child | align child =>
    rcases changes with _ | ⟨a, _ | _⟩ <;> cases hlen
    have ha : (a.getD child).scopes = child.scopes := h (child, a) (by simp [children])
    cases a with
    | none => rfl
    | some e => simpa [rebuild, rebuildOne, scopes] using ha
  | _ => rfl

theorem scopes_pad {ws : Widths} {d e : Doc} (h : pad ws d = .replace e) :
    e.scopes = d.scopes := by
  rw [pad] at h
  split at h
  · cases h
  · split at h
    · split at h
      · cases h
      · cases h
        rw [scopes_concat]
        rfl
    · cases h

/-- Making the columns of a scope equally wide neither adds nor removes a scope within it. -/
theorem scopes_resolved (d : Doc) : d.resolved.scopes = d.scopes := by
  rw [resolved, resolve, padAll]
  split
  · rfl
  · rw [rewrite_eq_rewriteTree]
    refine scopes_rewriteTree (fun _ _ _ _ h => ?_) d ()
    exact scopes_pad (congrArg Prod.snd h)

@[simp] theorem scopes_scopeContent (aligned : Bool) (d : Doc) :
    (d.scopeContent aligned).scopes = d.scopes := by
  rw [scopeContent]
  split
  · exact scopes_resolved d
  · rfl

end Doc

end VhdlLayout
