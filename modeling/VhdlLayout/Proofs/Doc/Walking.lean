import Mathlib
import VhdlLayout.Proofs.Doc.Recursion

/-!
# The course of a walk

A walk keeps the documents that are still to be visited in one list: what is left of
the children of every node on the way, and the documents that were put in the place
of others. What becomes of it can be told without such a list, by recursion over the
document (`Visitor.Walks`), for any visitor, whether or not it promises to go into
smaller documents only:

* `Visitor.walksEach_cons_of_goesOn`: one turn of the walk is one step of the recursion;
* `Visitor.visitWithin_iff`: so the walk ends if and only if the recursion does, after
  as many turns as nodes are seen, and with the same state and result. That the same
  nodes are seen in the same order is what it says of a visitor that notes them
  (`Visitor.visitWithin_logging_iff`);
* `Visitor.WalksEach.ends`: the first node that stops the walk is the last one seen;
* `Visitor.visitWithin_of_totalSize_le`: a visitor that keeps its promise sees no more
  nodes than the document has;
* `Doc.fold_eq_foldl`: a fold sees all nodes, each before what is below it and from left
  to right (`Doc.nodes`).
-/

namespace VhdlLayout

variable {σ β : Type}

namespace Doc

/-! ## All nodes -/

/-- All nodes of the document, each with what is below it, and before what is below it. -/
def nodes : Doc → List Doc
  | .cat left right => .cat left right :: (left.nodes ++ right.nodes)
  | .union flat broken => .union flat broken :: (flat.nodes ++ broken.nodes)
  | .nest child => .nest child :: child.nodes
  | .hang child => .hang child :: child.nodes
  | .align child => .align child :: child.nodes
  | d => [d]

theorem nodes_eq (d : Doc) : d.nodes = d :: d.children.flatMap nodes := by
  cases d <;> simp [nodes, children]

theorem foldPending_eq_foldl {α : Type} (f : α → Doc → α) (a : α) (ds : List Doc) :
    foldPending f a ds = (ds.flatMap nodes).foldl f a := by
  fun_induction foldPending f a ds with
  | case1 => rfl
  | case2 a d ds ih => rw [ih, List.flatMap_append, List.flatMap_cons, nodes_eq]; rfl

theorem fold_eq_foldl {α : Type} (f : α → Doc → α) (a : α) (d : Doc) :
    d.fold f a = d.nodes.foldl f a := by
  rw [fold, foldPending_eq_foldl, List.flatMap_singleton]

theorem length_nodes (d : Doc) : d.nodes.length = d.size := by
  induction d with
  | _ => simp_all [nodes, size]

theorem nodeCount_eq_size (d : Doc) : d.nodeCount = d.size := by
  rw [nodeCount, fold_eq_foldl, ← length_nodes]
  simp

theorem totalSize_eq_sum (ds : List Doc) : totalSize ds = (ds.map size).sum := by
  induction ds with
  | nil => rfl
  | cons d ds ih => rw [totalSize_cons, ih, List.map_cons, List.sum_cons]

/-- A node counts once, and the nodes below it once for each handle that it holds. -/
theorem nodeCount_handles {ι : Type} (H : Handles ι) (h : ι) :
    (H.doc h).nodeCount = ((H.children h).map fun child => (H.doc child).nodeCount).sum + 1 := by
  simp only [nodeCount_eq_size]
  rw [size_eq, totalSize_eq_sum, ← H.map_doc_children, List.map_map]
  rfl

end Doc

/-- The result with which the step ends the walk. -/
def Step.result? : Step β → Option β
  | .stop b => some b
  | _ => none

/-- The documents that are visited after the node `d` and before all that were pending. -/
def Step.documents (d : Doc) : Step β → List Doc
  | .descend => d.children
  | .into e => [e]
  | _ => []

namespace Visitor

/-! ## The recursion -/

mutual

/-- The walk through a document, by recursion. The visitor `see`, in the state `s`, sees the nodes
that are listed, each with the step that comes after it, and it ends in the state and with the
result of `out`. -/
inductive Walks (see : σ → Doc → σ × Step β) :
    σ → Doc → List (Doc × Step β) → σ × Option β → Prop where
  /-- First the node is seen, and then its children are walked through from left to right. -/
  | descend {s s' d below out} : see s d = (s', .descend) → WalksEach see s' d.children below out →
      Walks see s d ((d, .descend) :: below) out
  /-- Nothing below the node is seen. -/
  | skip {s s' d} : see s d = (s', .skip) → Walks see s d [(d, .skip)] (s', none)
  /-- Another document is walked through in the place of the node's children. -/
  | into {s s' d e below out} : see s d = (s', .into e) → Walks see s' e below out →
      Walks see s d ((d, .into e) :: below) out
  /-- The walk ends at once. -/
  | stop {s s' d b} : see s d = (s', .stop b) → Walks see s d [(d, .stop b)] (s', some b)

/-- The walk through several documents, one after the other, up to the first one in which it is
stopped. -/
inductive WalksEach (see : σ → Doc → σ × Step β) :
    σ → List Doc → List (Doc × Step β) → σ × Option β → Prop where
  | nil {s} : WalksEach see s [] [] (s, none)
  | cons {s s' d ds first later out} : Walks see s d first (s', none) →
      WalksEach see s' ds later out → WalksEach see s (d :: ds) (first ++ later) out
  | stopped {s s' d ds seen b} : Walks see s d seen (s', some b) →
      WalksEach see s (d :: ds) seen (s', some b)

end

variable {see : σ → Doc → σ × Step β} {s s' : σ} {d : Doc} {ds es : List Doc} {step : Step β}
  {b : β} {seen : List (Doc × Step β)} {out : σ × Option β} {turns : Nat}

theorem walksEach_nil_iff : WalksEach see s [] seen out ↔ seen = [] ∧ out = (s, none) := by
  constructor
  · rintro ⟨⟩
    exact ⟨rfl, rfl⟩
  · rintro ⟨rfl, rfl⟩
    exact .nil

theorem walksEach_cons_iff : WalksEach see s (d :: ds) seen out ↔
    (∃ s' first later, Walks see s d first (s', none) ∧ WalksEach see s' ds later out ∧
      seen = first ++ later) ∨
    ∃ s' b, Walks see s d seen (s', some b) ∧ out = (s', some b) := by
  constructor
  · intro h
    cases h with
    | cons hd hds => exact .inl ⟨_, _, _, hd, hds, rfl⟩
    | stopped hd => exact .inr ⟨_, _, hd, rfl⟩
  · rintro (⟨s', first, later, hd, hds, rfl⟩ | ⟨s', b, hd, rfl⟩)
    · exact .cons hd hds
    · exact .stopped hd

theorem walksEach_singleton_iff : WalksEach see s [d] seen out ↔ Walks see s d seen out := by
  rw [walksEach_cons_iff]
  constructor
  · rintro (⟨s', first, later, hd, hds, rfl⟩ | ⟨s', b, hd, rfl⟩)
    · obtain ⟨rfl, rfl⟩ := walksEach_nil_iff.1 hds
      rwa [List.append_nil]
    · exact hd
  · intro h
    obtain ⟨s', result⟩ := out
    cases result with
    | none => exact .inl ⟨s', seen, [], h, .nil, seen.append_nil.symm⟩
    | some b => exact .inr ⟨s', b, h, rfl⟩

/-- Documents before others are walked through first, and unless the walk is stopped in them the
others come next. -/
theorem walksEach_append_iff : WalksEach see s (ds ++ es) seen out ↔
    (∃ s' first later, WalksEach see s ds first (s', none) ∧ WalksEach see s' es later out ∧
      seen = first ++ later) ∨
    ∃ s' b, WalksEach see s ds seen (s', some b) ∧ out = (s', some b) := by
  induction ds generalizing s seen with
  | nil => simp [walksEach_nil_iff]
  | cons d ds ih =>
    rw [List.cons_append, walksEach_cons_iff]
    constructor
    · rintro (⟨s', first, later, hd, hrest, rfl⟩ | ⟨s', b, hd, rfl⟩)
      · rcases ih.1 hrest with ⟨s'', middle, last, hds, hes, rfl⟩ | ⟨s'', b, hds, rfl⟩
        · exact .inl ⟨s'', first ++ middle, last, .cons hd hds, hes,
            (List.append_assoc first middle last).symm⟩
        · exact .inr ⟨s'', b, .cons hd hds, rfl⟩
      · exact .inr ⟨s', b, .stopped hd, rfl⟩
    · rintro (⟨s'', before, last, hall, hes, rfl⟩ | ⟨s'', b, hall, rfl⟩)
      · cases hall with
        | cons hd hds =>
          exact .inl ⟨_, _, _, hd, ih.2 (.inl ⟨s'', _, last, hds, hes, rfl⟩),
            List.append_assoc _ _ last⟩
      · rcases walksEach_cons_iff.1 hall with ⟨s', first, later, hd, hds, rfl⟩ | ⟨s', b, hd, h⟩
        · exact .inl ⟨s', first, later, hd, ih.2 (.inr ⟨s'', _, hds, rfl⟩), rfl⟩
        · exact .inr ⟨s', b, hd, h⟩

/-- A node that does not stop the walk is seen before the documents that the visitor then wants to
have visited. -/
theorem walks_iff_of_goesOn (h : see s d = (s', step)) (hstep : step.result? = none) :
    Walks see s d seen out ↔
      ∃ below, WalksEach see s' (step.documents d) below out ∧ seen = (d, step) :: below := by
  cases step with
  | descend =>
    constructor
    · intro hwalk
      cases hwalk with
      | descend h' hbelow => cases h.symm.trans h'; exact ⟨_, hbelow, rfl⟩
      | skip h' | into h' | stop h' => cases h.symm.trans h'
    · rintro ⟨below, hbelow, rfl⟩
      exact .descend h hbelow
  | skip =>
    simp only [Step.documents, walksEach_nil_iff]
    constructor
    · intro hwalk
      cases hwalk with
      | skip h' => cases h.symm.trans h'; exact ⟨[], ⟨rfl, rfl⟩, rfl⟩
      | descend h' | into h' | stop h' => cases h.symm.trans h'
    · rintro ⟨below, ⟨rfl, rfl⟩, rfl⟩
      exact .skip h
  | into e =>
    simp only [Step.documents, walksEach_singleton_iff]
    constructor
    · intro hwalk
      cases hwalk with
      | into h' hbelow => cases h.symm.trans h'; exact ⟨_, hbelow, rfl⟩
      | descend h' | skip h' | stop h' => cases h.symm.trans h'
    · rintro ⟨below, hbelow, rfl⟩
      exact .into h hbelow
  | stop b => cases hstep

theorem walks_iff_of_stop (h : see s d = (s', .stop b)) :
    Walks see s d seen out ↔ seen = [(d, .stop b)] ∧ out = (s', some b) := by
  constructor
  · intro hwalk
    cases hwalk with
    | stop h' => cases h.symm.trans h'; exact ⟨rfl, rfl⟩
    | descend h' | skip h' | into h' => cases h.symm.trans h'
  · rintro ⟨rfl, rfl⟩
    exact .stop h

/-! ## Turns of the walk as steps of the recursion -/

/-- *A turn is a step of the recursion.* What is to be visited after a node comes before all that
was pending. -/
theorem walksEach_cons_of_goesOn (h : see s d = (s', step)) (hstep : step.result? = none) :
    WalksEach see s (d :: ds) seen out ↔
      ∃ below, WalksEach see s' (step.documents d ++ ds) below out ∧
        seen = (d, step) :: below := by
  simp only [walksEach_cons_iff, walksEach_append_iff, walks_iff_of_goesOn h hstep]
  constructor
  · rintro (⟨s'', _, later, ⟨below, hbelow, rfl⟩, hds, rfl⟩ | ⟨s'', b, ⟨below, hbelow, rfl⟩, rfl⟩)
    · exact ⟨below ++ later, .inl ⟨s'', below, later, hbelow, hds, rfl⟩, rfl⟩
    · exact ⟨below, .inr ⟨s'', b, hbelow, rfl⟩, rfl⟩
  · rintro ⟨_, ⟨s'', below, later, hbelow, hds, rfl⟩ | ⟨s'', b, hbelow, rfl⟩, rfl⟩
    · exact .inl ⟨s'', _, later, ⟨below, hbelow, rfl⟩, hds, rfl⟩
    · exact .inr ⟨s'', b, ⟨_, hbelow, rfl⟩, rfl⟩

/-- Whatever is pending, a walk ends with the node that stops it. -/
theorem walksEach_cons_of_stop (h : see s d = (s', .stop b)) :
    WalksEach see s (d :: ds) seen out ↔ seen = [(d, .stop b)] ∧ out = (s', some b) := by
  simp only [walksEach_cons_iff, walks_iff_of_stop h]
  constructor
  · rintro (⟨_, _, _, ⟨-, h⟩, -⟩ | ⟨_, _, ⟨rfl, h⟩, rfl⟩)
    · cases h
    · exact ⟨rfl, h⟩
  · rintro ⟨rfl, rfl⟩
    exact .inr ⟨s', b, ⟨rfl, rfl⟩, rfl⟩

theorem visitWithin_nil (see : σ → Doc → σ × Step β) (turns : Nat) (s : σ) :
    visitWithin see turns s [] = some (s, none) := by
  cases turns <;> rfl

theorem visitWithin_cons_of_goesOn (h : see s d = (s', step)) (hstep : step.result? = none) :
    visitWithin see (turns + 1) s (d :: ds) =
      visitWithin see turns s' (step.documents d ++ ds) := by
  rw [visitWithin, h]
  cases step with
  | stop b => cases hstep
  | _ => rfl

theorem visitWithin_cons_of_stop (h : see s d = (s', .stop b)) :
    visitWithin see (turns + 1) s (d :: ds) = some (s', some b) := by
  rw [visitWithin, h]

/-- The visitor that also notes which nodes it sees, and what comes after each. -/
def logging (see : σ → Doc → σ × Step β) (s : List (Doc × Step β) × σ) (d : Doc) :
    (List (Doc × Step β) × σ) × Step β :=
  ((s.1 ++ [(d, (see s.2 d).2)], (see s.2 d).1), (see s.2 d).2)

theorem logging_eq (h : see s d = (s', step)) (log : List (Doc × Step β)) :
    logging see (log, s) d = ((log ++ [(d, step)], s'), step) := by
  rw [logging, h]

/-- A node stops the walk or does not. -/
theorem goesOn_or_stop (see : σ → Doc → σ × Step β) (s : σ) (d : Doc) :
    (∃ s' step, see s d = (s', step) ∧ step.result? = none) ∨ ∃ s' b, see s d = (s', .stop b) := by
  rcases hsee : see s d with ⟨s', step⟩
  cases step with
  | stop b => exact .inr ⟨s', b, rfl⟩
  | _ => exact .inl ⟨s', _, rfl, rfl⟩

theorem WalksEach.ne_nil (h : WalksEach see s (d :: ds) seen out) : seen ≠ [] := by
  rcases goesOn_or_stop see s d with ⟨s', step, hsee, hstep⟩ | ⟨s', b, hsee⟩
  · obtain ⟨below, -, rfl⟩ := (walksEach_cons_of_goesOn hsee hstep).1 h
    exact List.cons_ne_nil _ below
  · rw [((walksEach_cons_of_stop hsee).1 h).1]
    exact List.cons_ne_nil _ []

theorem visitWithin_logging_nil_iff {log noted : List (Doc × Step β)} :
    visitWithin (logging see) turns (log, s) [] = some ((noted, out.1), out.2) ↔
      ∃ seen, WalksEach see s [] seen out ∧ noted = log ++ seen ∧ seen.length ≤ turns := by
  obtain ⟨s', r⟩ := out
  simp only [visitWithin_nil, walksEach_nil_iff, Option.some.injEq, Prod.mk.injEq]
  constructor
  · rintro ⟨⟨rfl, rfl⟩, rfl⟩
    exact ⟨[], ⟨rfl, rfl, rfl⟩, log.append_nil.symm, Nat.zero_le turns⟩
  · rintro ⟨_, ⟨rfl, rfl, rfl⟩, rfl, -⟩
    exact ⟨⟨log.append_nil.symm, rfl⟩, rfl⟩

/-- A walk comes to its end within so many turns if the recursion does and sees no more nodes. What
is noted on the way, behind what was there, are the nodes that the recursion sees. -/
theorem visitWithin_logging_append_iff {log noted : List (Doc × Step β)} :
    visitWithin (logging see) turns (log, s) ds = some ((noted, out.1), out.2) ↔
      ∃ seen, WalksEach see s ds seen out ∧ noted = log ++ seen ∧ seen.length ≤ turns := by
  -- Each turn notes one node, and the recursion sees one in each step. So the log is any that was
  -- there, and not an empty one.
  induction turns generalizing log s ds with
  | zero =>
    cases ds with
    | nil => exact visitWithin_logging_nil_iff
    | cons d ds =>
      refine iff_of_false nofun ?_
      rintro ⟨seen, hseen, -, hle⟩
      exact hseen.ne_nil (List.eq_nil_of_length_eq_zero (Nat.le_zero.1 hle))
  | succ turns ih =>
    cases ds with
    | nil => exact visitWithin_logging_nil_iff
    | cons d ds =>
      rcases goesOn_or_stop see s d with ⟨s', step, hsee, hstep⟩ | ⟨s', b, hsee⟩
      · rw [visitWithin_cons_of_goesOn (logging_eq hsee log) hstep, ih]
        simp only [walksEach_cons_of_goesOn hsee hstep]
        constructor
        · rintro ⟨below, hbelow, rfl, hle⟩
          exact ⟨_, ⟨below, hbelow, rfl⟩, (List.append_cons log _ below).symm,
            Nat.succ_le_succ hle⟩
        · rintro ⟨_, ⟨below, hbelow, rfl⟩, rfl, hle⟩
          exact ⟨below, hbelow, List.append_cons log _ below, Nat.le_of_succ_le_succ hle⟩
      · rw [visitWithin_cons_of_stop (logging_eq hsee log)]
        simp only [walksEach_cons_of_stop hsee, Option.some.injEq, Prod.ext_iff]
        constructor
        · rintro ⟨⟨rfl, hs⟩, hr⟩
          exact ⟨_, ⟨rfl, hs.symm, hr.symm⟩, rfl, Nat.succ_le_succ (Nat.zero_le turns)⟩
        · rintro ⟨_, ⟨rfl, hs, hr⟩, rfl, -⟩
          exact ⟨⟨rfl, hs.symm⟩, hr.symm⟩

/-- *A walk sees what the recursion sees*, one node in each turn, and ends where the recursion
does. -/
theorem visitWithin_logging_iff :
    visitWithin (logging see) turns ([], s) ds = some ((seen, out.1), out.2) ↔
      WalksEach see s ds seen out ∧ seen.length ≤ turns := by
  rw [visitWithin_logging_append_iff]
  constructor
  · rintro ⟨_, hseen, rfl, hle⟩
    exact ⟨hseen, hle⟩
  · rintro ⟨hseen, hle⟩
    exact ⟨seen, hseen, rfl, hle⟩

/-- To note what is seen makes no difference to the walk. -/
theorem visitWithin_eq_map_logging (log : List (Doc × Step β)) :
    visitWithin see turns s ds =
      (visitWithin (logging see) turns (log, s) ds).map fun x => (x.1.2, x.2) := by
  induction turns generalizing log s ds with
  | zero => cases ds <;> rfl
  | succ turns ih =>
    cases ds with
    | nil => rfl
    | cons d ds =>
      rcases goesOn_or_stop see s d with ⟨s', step, hsee, hstep⟩ | ⟨s', b, hsee⟩
      · rw [visitWithin_cons_of_goesOn hsee hstep,
          visitWithin_cons_of_goesOn (logging_eq hsee log) hstep]
        exact ih _
      · rw [visitWithin_cons_of_stop hsee, visitWithin_cons_of_stop (logging_eq hsee log)]
        rfl

/-- The walk ends if and only if the recursion does, in the same state and with the same result. -/
theorem visitWithin_iff :
    visitWithin see turns s ds = some out ↔
      ∃ seen, WalksEach see s ds seen out ∧ seen.length ≤ turns := by
  rw [visitWithin_eq_map_logging [], Option.map_eq_some_iff]
  simp only [← visitWithin_logging_iff]
  constructor
  · rintro ⟨⟨⟨seen, s'⟩, r⟩, hrun, rfl⟩
    exact ⟨seen, hrun⟩
  · rintro ⟨seen, hrun⟩
    exact ⟨_, hrun, rfl⟩

/-- The recursion sees the same and comes to the same whenever it ends. -/
theorem WalksEach.unique {seen' : List (Doc × Step β)} {out' : σ × Option β}
    (h : WalksEach see s ds seen out) (h' : WalksEach see s ds seen' out') :
    seen = seen' ∧ out = out' := by
  have hrun := visitWithin_logging_iff.2 ⟨h, le_max_left seen.length seen'.length⟩
  have hrun' := visitWithin_logging_iff.2 ⟨h', le_max_right seen.length seen'.length⟩
  have heq := Option.some.inj (hrun.symm.trans hrun')
  simp only [Prod.mk.injEq] at heq
  exact ⟨heq.1.1, Prod.ext heq.1.2 heq.2⟩

/-! ## Where the walk ends -/

/-- If there is a result, then the last node that is seen is the first one that stops the walk, and
stops it with this result. Otherwise none does. -/
def Ends (seen : List (Doc × Step β)) : Option β → Prop
  | none => ∀ p ∈ seen, p.2.result? = none
  | some b => ∃ before d, seen = before ++ [(d, .stop b)] ∧ ∀ p ∈ before, p.2.result? = none

theorem Ends.cons {r : Option β} (h : Ends seen r) (hstep : step.result? = none) (d : Doc) :
    Ends ((d, step) :: seen) r := by
  cases r with
  | none => exact List.forall_mem_cons.2 ⟨hstep, h⟩
  | some b =>
    obtain ⟨before, e, rfl, hbefore⟩ := h
    exact ⟨(d, step) :: before, e, rfl, List.forall_mem_cons.2 ⟨hstep, hbefore⟩⟩

theorem WalksEach.ends (h : WalksEach see s ds seen out) : Ends seen out.2 := by
  -- By the nodes seen: behind each of them stands a walk through what is pending then.
  induction seen generalizing s ds with
  | nil =>
    cases ds with
    | nil =>
      rw [(walksEach_nil_iff.1 h).2]
      exact fun _ hp => absurd hp List.not_mem_nil
    | cons d ds => exact absurd rfl h.ne_nil
  | cons p seen ih =>
    cases ds with
    | nil => cases (walksEach_nil_iff.1 h).1
    | cons d ds =>
      rcases goesOn_or_stop see s d with ⟨s', step, hsee, hstep⟩ | ⟨s', b, hsee⟩
      · obtain ⟨below, hbelow, heq⟩ := (walksEach_cons_of_goesOn hsee hstep).1 h
        cases heq
        exact (ih hbelow).cons hstep d
      · obtain ⟨heq, rfl⟩ := (walksEach_cons_of_stop hsee).1 h
        rw [heq]
        exact ⟨[], d, rfl, fun _ hp => absurd hp List.not_mem_nil⟩

/-! ## Visitors that go into smaller documents only -/

variable {v : Visitor σ β}

theorem run_cons_of_goesOn (h : v.see s d = (s', step)) (hstep : step.result? = none) :
    v.run s (d :: ds) = v.run s' (step.documents d ++ ds) := by
  cases step with
  | descend => exact run_cons_of_descend h ds
  | skip => exact run_cons_of_skip h ds
  | into e => exact run_cons_of_into h ds
  | stop b => cases hstep

theorem totalSize_documents_lt (h : v.see s d = (s', step)) :
    Doc.totalSize (step.documents d) < d.size := by
  cases step with
  | descend => exact Nat.lt_of_lt_of_eq (Nat.lt_succ_self _) d.size_eq.symm
  | into e => exact v.into_smaller h
  | _ => exact d.size_pos

/-- A visitor that goes into smaller documents only needs no more turns than there are nodes. -/
theorem visitWithin_of_totalSize_le (v : Visitor σ β) (s : σ) (h : Doc.totalSize ds ≤ turns) :
    visitWithin v.see turns s ds = some (v.run s ds) := by
  induction turns generalizing s ds with
  | zero =>
    cases ds with
    | nil => rw [visitWithin_nil, run]
    | cons d ds =>
      have hpos := d.size_pos
      rw [Doc.totalSize_cons] at h
      omega
  | succ turns ih =>
    cases ds with
    | nil => rw [visitWithin_nil, run]
    | cons d ds =>
      rcases goesOn_or_stop v.see s d with ⟨s', step, hsee, hstep⟩ | ⟨s', b, hsee⟩
      · rw [visitWithin_cons_of_goesOn hsee hstep, run_cons_of_goesOn hsee hstep]
        refine ih s' ?_
        have hless := totalSize_documents_lt hsee
        rw [Doc.totalSize_append]
        rw [Doc.totalSize_cons] at h
        omega
      · rw [visitWithin_cons_of_stop hsee, run_cons_of_stop hsee]

/-- The visitor with its promise that also notes which nodes it sees. -/
def logged (v : Visitor σ β) : Visitor (List (Doc × Step β) × σ) β where
  see := logging v.see
  into_smaller {s _ d e} h := by
    have hstep : (v.see s.2 d).2 = .into e := congrArg Prod.snd h
    exact v.into_smaller (Prod.ext rfl hstep)

theorem exists_walks (v : Visitor σ β) (s : σ) (d : Doc) :
    ∃ seen, Walks v.see s d seen (v.visit s d) ∧
      v.logged.visit ([], s) d = ((seen, (v.visit s d).1), (v.visit s d).2) ∧
      seen.length ≤ d.size := by
  have hsize : Doc.totalSize [d] ≤ d.size := Nat.le_refl d.size
  obtain ⟨seen, hseen, hle⟩ := visitWithin_iff.1 (visitWithin_of_totalSize_le v s hsize)
  have hlog := visitWithin_logging_iff.2 ⟨hseen, hle⟩
  have hlogged := visitWithin_of_totalSize_le v.logged ([], s) hsize
  exact ⟨seen, walksEach_singleton_iff.1 hseen, Option.some.inj (hlogged.symm.trans hlog), hle⟩

/-- The visitor notes what the recursion sees, and comes to the same state and result. -/
theorem walks_iff_visit_logged :
    Walks v.see s d seen out ↔ v.logged.visit ([], s) d = ((seen, out.1), out.2) := by
  obtain ⟨seen', hwalk, hlog, -⟩ := exists_walks v s d
  constructor
  · intro h
    obtain ⟨rfl, rfl⟩ := (walksEach_singleton_iff.2 h).unique (walksEach_singleton_iff.2 hwalk)
    exact hlog
  · intro h
    have heq := h.symm.trans hlog
    simp only [Prod.mk.injEq] at heq
    obtain ⟨⟨rfl, hs⟩, hr⟩ := heq
    rwa [Prod.ext hs hr]

/-- The visitor that goes into every node. -/
def descending (f : σ → Doc → σ) (s : σ) (d : Doc) : σ × Step β := (f s d, .descend)

theorem walksEach_descending_iff (f : σ → Doc → σ) :
    WalksEach (descending f) s ds seen out ↔
      seen = (ds.flatMap Doc.nodes).map (·, .descend) ∧
        out = (Doc.foldPending f s ds, none) := by
  fun_induction Doc.foldPending f s ds generalizing seen with
  | case1 s => exact walksEach_nil_iff
  | case2 s d ds ih =>
    rw [walksEach_cons_of_goesOn rfl rfl]
    simp only [Step.documents, ih, List.flatMap_append, List.flatMap_cons, Doc.nodes_eq d]
    constructor
    · rintro ⟨_, ⟨rfl, rfl⟩, rfl⟩
      exact ⟨rfl, rfl⟩
    · rintro ⟨rfl, rfl⟩
      exact ⟨_, ⟨rfl, rfl⟩, rfl⟩

/-! ## The walk and the recursion -/

/-- *A walk is the recursion.* Whatever visitor there is, its walk through a document ends if and
only if the recursion does, after as many turns as nodes are seen, in the same state and with the
same result; and it sees the nodes that the recursion sees, in the same order, and gives the same
answers. The first node that stops it is the last one it sees, and its result is that of the walk. A
visitor that goes into smaller documents only comes to an end, and sees no more nodes than there
are.

A fold sees what the visitor sees that goes into every node. So the nodes it counts are the node
itself and, once for each handle that the node holds, those below it. -/
theorem visit_refines_walks (d : Doc) :
    (∀ (see : σ → Doc → σ × Step β) (s : σ),
      (∀ turns seen out, visitWithin (logging see) turns ([], s) [d] = some ((seen, out.1), out.2) ↔
        Walks see s d seen out ∧ seen.length ≤ turns) ∧
      (∀ turns out, visitWithin see turns s [d] = some out ↔
        ∃ seen, Walks see s d seen out ∧ seen.length ≤ turns) ∧
      ∀ seen out, Walks see s d seen out → Ends seen out.2) ∧
    (∀ (v : Visitor σ β) (s : σ),
      (∀ seen out, Walks v.see s d seen out ↔
        v.logged.visit ([], s) d = ((seen, out.1), out.2)) ∧
      ∃ seen, Walks v.see s d seen (v.visit s d) ∧ seen.length ≤ d.size) ∧
    (∀ (f : σ → Doc → σ) (s : σ), d.fold f s = d.nodes.foldl f s ∧
      ∀ (seen : List (Doc × Step β)) out, Walks (descending f) s d seen out ↔
        seen = d.nodes.map (·, .descend) ∧ out = (d.fold f s, none)) ∧
    d.nodeCount = d.size ∧
    ∀ (ι : Type) (H : Handles ι) (h : ι),
      (H.doc h).nodeCount = ((H.children h).map fun child => (H.doc child).nodeCount).sum + 1 := by
  refine ⟨fun see s => ⟨fun turns seen out => ?_, fun turns out => ?_, fun seen out h => ?_⟩,
    fun v s => ⟨fun seen out => walks_iff_visit_logged, ?_⟩,
    fun f s => ⟨d.fold_eq_foldl f s, fun seen out => ?_⟩,
    d.nodeCount_eq_size, fun ι H h => Doc.nodeCount_handles H h⟩
  · rw [visitWithin_logging_iff, walksEach_singleton_iff]
  · simp only [visitWithin_iff, walksEach_singleton_iff]
  · exact (walksEach_singleton_iff.2 h).ends
  · obtain ⟨seen, hwalk, -, hle⟩ := exists_walks v s d
    exact ⟨seen, hwalk, hle⟩
  · rw [← walksEach_singleton_iff, walksEach_descending_iff, List.flatMap_singleton, Doc.fold]

/-- A scope is skipped, the flat document of a union is seen in the place of both, and the walk is
stopped at the first line end: neither what stands behind it nor what stands in the union for broken
lines is seen. -/
theorem visit_refines_walks_hardLine :
    let look (n : Nat) : Doc → Nat × Step String
      | .union flat _ => (n + 1, .into flat)
      | .align _ => (n + 1, .skip)
      | .hardLine => (n + 1, .stop "line end")
      | _ => (n + 1, .descend)
    let scope := Doc.align (.text "a" (some 0))
    let choice := Doc.union (.text "b" none) .hardLine
    let last := Doc.nest (.cat .hardLine (.text "c" none))
    let d := Doc.cat scope (.cat choice last)
    let seen := [(d, .descend), (scope, .skip), (.cat choice last, .descend),
      (choice, .into (.text "b" none)), (.text "b" none, .descend), (last, .descend),
      (.cat .hardLine (.text "c" none), .descend), (.hardLine, .stop "line end")]
    Walks look 0 d seen (8, some "line end") ∧ Ends seen (some "line end") ∧
      visitWithin look 8 0 [d] = some (8, some "line end") ∧ visitWithin look 7 0 [d] = none := by
  intro look scope choice last d seen
  obtain ⟨whole, -⟩ := visit_refines_walks (σ := Nat) (β := String) d
  obtain ⟨logged, visited, ends⟩ := whole look 0
  obtain ⟨walk, -⟩ := (logged 8 seen (8, some "line end")).1 rfl
  exact ⟨walk, ends seen _ walk, (visited 8 _).2 ⟨seen, walk, Nat.le_refl 8⟩, rfl⟩

end Visitor

end VhdlLayout
