import Mathlib
import VhdlLayout.Doc.Rewrite

/-!
# The course of a rewrite

A rewrite keeps its work in two lists, and rebuilds a node from what it finds on top of
the second one. That it finds the changes of the node's own children there, and all of
them, is for the whole course of the pass to ensure. So the pass is looked at turn by
turn here (`Pass.next?`):

* `Pass.steps_visit`: from a node that is to be looked at, the turns lead to the node's
  change on top of what was finished before, and on the way every node that is rebuilt
  finds the changes of its children (`Pass.FindsChanges`);
* `Pass.findsChanges_of_reaches`: so it is in the whole course of a pass;
* `Doc.rewriteTree_logging`: nodes are looked at in the order of the recursion
  (`Doc.calls`), each before what is below it, from left to right;
* `Doc.rewriteTree_eq_none`: without replacements nothing changes.
-/

namespace VhdlLayout

open Relation StateTransition

variable {σ : Type} {f : σ → Doc → σ × Rewrite} {s s' : σ} {d e : Doc}

namespace Doc

/-! ## The recursion, node by node -/

/-- What becomes of several documents and of the state, one after the other. -/
def rewriteEach (f : σ → Doc → σ × Rewrite) : List Doc → σ → σ × List Change
  | [], s => (s, [])
  | d :: ds, s =>
    let (s, change) := rewriteTree f d s
    let (s, changes) := rewriteEach f ds s
    (s, change :: changes)

theorem length_rewriteEach (f : σ → Doc → σ × Rewrite) (ds : List Doc) (s : σ) :
    (rewriteEach f ds s).2.length = ds.length := by
  induction ds generalizing s with
  | nil => rfl
  | cons d ds ih => exact congrArg (· + 1) (ih _)

theorem rewriteTree_of_keep (h : f s d = (s', .keep)) : rewriteTree f d s = (s', none) := by
  rw [rewriteTree, h]

theorem rewriteTree_of_replace (h : f s d = (s', .replace e)) :
    rewriteTree f d s = (s', some e) := by
  rw [rewriteTree, h]

/-- A node that is gone into is rebuilt from what becomes of its children. -/
theorem rewriteTree_of_descend (h : f s d = (s', .descend)) :
    rewriteTree f d s =
      ((rewriteEach f d.children s').1, d.rebuild (rewriteEach f d.children s').2) := by
  rw [rewriteTree, h]
  cases d <;> rfl

end Doc

/-! ## The pass, turn by turn -/

/-- A rewrite at work: the state, what is still to be done, and the changes of finished nodes, the
last one first. -/
structure Pass (σ : Type) where
  state : σ
  frames : List Frame
  done : List Change

namespace Pass

/-- A pass that is about to look at a document. -/
def start (s : σ) (d : Doc) : Pass σ := ⟨s, [.visit d], []⟩

/-- The pass after the next turn. There is none when nothing is left to be done. -/
def next? (f : σ → Doc → σ × Rewrite) (p : Pass σ) : Option (Pass σ) :=
  match p.frames with
  | [] => none
  | .build d :: rest =>
    let count := d.children.length
    some ⟨p.state, rest, d.rebuild (p.done.take count).reverse :: p.done.drop count⟩
  | .visit d :: rest =>
    match f p.state d with
    | (s, .keep) => some ⟨s, rest, none :: p.done⟩
    | (s, .replace e) => some ⟨s, rest, some e :: p.done⟩
    | (s, .descend) => some ⟨s, d.children.map .visit ++ .build d :: rest, p.done⟩

/-- What comes of the rest of the pass. -/
def finish (f : σ → Doc → σ × Rewrite) (p : Pass σ) : σ × List Change :=
  Doc.rewriteLoop f p.state p.frames p.done

/-- To finish the pass after a turn is to finish the pass. -/
theorem finish_of_next? {p q : Pass σ} (h : q ∈ next? f p) : p.finish f = q.finish f := by
  obtain ⟨s, frames, done⟩ := p
  cases frames with
  | nil => cases h
  | cons frame rest =>
    cases frame with
    | build d =>
      cases h
      exact Doc.rewriteLoop_build f d s rest done
    | visit d =>
      rw [Option.mem_def, next?] at h
      rw [finish, Doc.rewriteLoop]
      rcases hf : f s d with ⟨s', answer⟩
      simp only [hf] at h ⊢
      cases answer <;> · cases h; rfl

theorem finish_of_reaches {p q : Pass σ} (h : Reaches (next? f) p q) : p.finish f = q.finish f := by
  induction h using ReflTransGen.head_induction_on with
  | refl => rfl
  | head hstep _ ih => rw [finish_of_next? hstep, ih]

variable {first p q : Pass σ} {rest : List Frame} {done : List Change}

/-- A node is rebuilt from what has been finished last, one change for each child. -/
theorem next?_build {changes : List Change} (h : changes.length = d.children.length) :
    next? f ⟨s, .build d :: rest, changes.reverse ++ done⟩ =
      some ⟨s, rest, d.rebuild changes :: done⟩ := by
  have hcount : changes.reverse.length = d.children.length := by rw [List.length_reverse, h]
  rw [next?]
  dsimp only
  rw [List.take_left' hcount, List.drop_left' hcount, List.reverse_reverse]

/-- If the node `e` is to be rebuilt next, then what has been finished last is what becomes of its
children, one change for each. The pass that began with `first` has looked at `e` before, has gone
into it, and has finished nothing else since. -/
def FindsChanges (f : σ → Doc → σ × Rewrite) (p first : Pass σ) : Prop :=
  ∀ e rest, p.frames = .build e :: rest → ∃ s s' older,
    Reaches (next? f) first ⟨s, .visit e :: rest, older⟩ ∧ f s e = (s', .descend) ∧
      p.state = (Doc.rewriteEach f e.children s').1 ∧
      p.done = (Doc.rewriteEach f e.children s').2.reverse ++ older ∧
      (Doc.rewriteEach f e.children s').2.length = e.children.length

theorem findsChanges_visit : FindsChanges f ⟨s, .visit d :: rest, done⟩ first :=
  fun _ _ h => nomatch h

/-- A turn in which a node that is rebuilt finds the changes of its children. -/
def Step (f : σ → Doc → σ × Rewrite) (first p q : Pass σ) : Prop :=
  p.FindsChanges f first ∧ q ∈ next? f p

theorem reaches_of_steps (h : ReflTransGen (Step f first) p q) : Reaches (next? f) p q :=
  ReflTransGen.mono (fun _ _ hstep => hstep.2) _ _ h

/-- Documents on the list of frames are finished one after the other if each of them is. -/
theorem steps_visits {ds : List Doc}
    (h : ∀ d ∈ ds, ∀ s rest done, Reaches (next? f) first ⟨s, .visit d :: rest, done⟩ →
      ReflTransGen (Step f first) ⟨s, .visit d :: rest, done⟩
        ⟨(Doc.rewriteTree f d s).1, rest, (Doc.rewriteTree f d s).2 :: done⟩)
    (hrun : Reaches (next? f) first ⟨s, ds.map .visit ++ rest, done⟩) :
    ReflTransGen (Step f first) ⟨s, ds.map .visit ++ rest, done⟩
      ⟨(Doc.rewriteEach f ds s).1, rest, (Doc.rewriteEach f ds s).2.reverse ++ done⟩ := by
  induction ds generalizing s done with
  | nil => exact .refl
  | cons d ds ih =>
    obtain ⟨hd, hds⟩ := List.forall_mem_cons.1 h
    have here := hd s _ done hrun
    have there := ih hds (hrun.trans (reaches_of_steps here))
    rw [Doc.rewriteEach, List.reverse_cons, List.append_assoc]
    exact here.trans there

/-- *The turns follow the recursion.* From a node that is to be looked at they lead to its change on
top of what was finished before, and all nodes below that are rebuilt find their changes. -/
theorem steps_visit (d : Doc) : ∀ s rest done,
    Reaches (next? f) first ⟨s, .visit d :: rest, done⟩ →
      ReflTransGen (Step f first) ⟨s, .visit d :: rest, done⟩
        ⟨(Doc.rewriteTree f d s).1, rest, (Doc.rewriteTree f d s).2 :: done⟩ := by
  induction d using Doc.children_induction with
  | step d ih =>
    intro s rest done hrun
    have turn {q : Pass σ} (h : next? f ⟨s, .visit d :: rest, done⟩ = some q) :
        Step f first ⟨s, .visit d :: rest, done⟩ q := ⟨findsChanges_visit, h⟩
    rcases hf : f s d with ⟨s', answer⟩
    cases answer with
    | keep =>
      rw [Doc.rewriteTree_of_keep hf]
      exact .single (turn (by rw [next?]; simp only [hf]))
    | replace e =>
      rw [Doc.rewriteTree_of_replace hf]
      exact .single (turn (by rw [next?]; simp only [hf]))
    | descend =>
      rw [Doc.rewriteTree_of_descend hf]
      have into := turn (q := ⟨s', d.children.map .visit ++ .build d :: rest, done⟩)
        (by rw [next?]; simp only [hf])
      have below := steps_visits ih (hrun.tail into.2)
      have hlength := Doc.length_rewriteEach f d.children s'
      refine .head into (below.tail ⟨?_, ?_⟩)
      · rintro e rest ⟨⟩
        exact ⟨s, s', done, hrun, hf, rfl, rfl, hlength⟩
      · exact next?_build hlength

/-- What holds before every turn of a run that has come to its end, and then, holds in its whole
course. -/
theorem forall_of_steps {step : Pass σ → Option (Pass σ)} {P : Pass σ → Prop}
    (h : ReflTransGen (fun p q => P p ∧ q ∈ step p) p q) (hend : step q = none) (hq : P q) :
    ∀ r, Reaches step p r → P r := by
  induction h using ReflTransGen.head_induction_on with
  | refl =>
    intro r hr
    rcases hr.cases_head with rfl | ⟨next, hnext, -⟩
    · exact hq
    · cases hend.symm.trans hnext
  | head hstep _ ih =>
    intro r hr
    rcases hr.cases_head with rfl | ⟨next, hnext, hr⟩
    · exact hstep.1
    · rw [Option.mem_unique hnext hstep.2] at hr
      exact ih r hr

theorem steps_start (f : σ → Doc → σ × Rewrite) (s : σ) (d : Doc) :
    ReflTransGen (Step f (start s d)) (start s d)
      ⟨(Doc.rewriteTree f d s).1, [], [(Doc.rewriteTree f d s).2]⟩ :=
  steps_visit d s [] [] .refl

/-- In the whole course of a pass, every node that is rebuilt finds the changes of its children. -/
theorem findsChanges_of_reaches (h : Reaches (next? f) (start s d) p) :
    p.FindsChanges f (start s d) :=
  forall_of_steps (steps_start f s d) rfl nofun p h

end Pass

namespace Doc

/-! ## The order of the recursion -/

/-- The nodes that the rewrite is asked about in the recursion, each with the answer. -/
def calls (f : σ → Doc → σ × Rewrite) (d : Doc) (s : σ) : List (Doc × Rewrite) :=
  match f s d with
  | (s, .descend) =>
    (d, .descend) ::
      match d with
      | .cat left right | .union left right =>
        left.calls f s ++ right.calls f (rewriteTree f left s).1
      | .nest child | .hang child | .align child => child.calls f s
      | _ => []
  | (_, answer) => [(d, answer)]

/-- The nodes that the rewrite is asked about in several documents, one after the other. -/
def callsEach (f : σ → Doc → σ × Rewrite) : List Doc → σ → List (Doc × Rewrite)
  | [], _ => []
  | d :: ds, s => d.calls f s ++ callsEach f ds (rewriteTree f d s).1

/-- If the rewrite goes into a node, it is asked about the node first, and then about what is below
it, from left to right. -/
theorem calls_of_descend (h : f s d = (s', .descend)) :
    d.calls f s = (d, .descend) :: callsEach f d.children s' := by
  rw [calls, h]
  cases d <;> simp [callsEach, children]

/-- If the rewrite does not go into a node, it is asked about the node alone. -/
theorem calls_of_ne_descend {answer : Rewrite} (h : f s d = (s', answer))
    (hne : answer ≠ .descend) : d.calls f s = [(d, answer)] := by
  rw [calls, h]
  cases answer with
  | descend => exact absurd rfl hne
  | _ => rfl

/-- The rewrite that also notes what it is asked about, and its answers. -/
def logging (f : σ → Doc → σ × Rewrite) (s : List (Doc × Rewrite) × σ) (d : Doc) :
    (List (Doc × Rewrite) × σ) × Rewrite :=
  ((s.1 ++ [(d, (f s.2 d).2)], (f s.2 d).1), (f s.2 d).2)

theorem rewriteEach_logging {ds : List Doc}
    (h : ∀ d ∈ ds, ∀ log s, rewriteTree (logging f) d (log, s) =
      ((log ++ d.calls f s, (rewriteTree f d s).1), (rewriteTree f d s).2))
    (log : List (Doc × Rewrite)) (s : σ) :
    rewriteEach (logging f) ds (log, s) =
      ((log ++ callsEach f ds s, (rewriteEach f ds s).1), (rewriteEach f ds s).2) := by
  induction ds generalizing log s with
  | nil => simp [rewriteEach, callsEach]
  | cons d ds ih =>
    obtain ⟨hd, hds⟩ := List.forall_mem_cons.1 h
    simp only [rewriteEach, callsEach, hd, ih hds, List.append_assoc]

/-- What is noted are the nodes in the order of the recursion, and nothing else changes. -/
theorem rewriteTree_logging (f : σ → Doc → σ × Rewrite) (d : Doc) :
    ∀ log s, rewriteTree (logging f) d (log, s) =
      ((log ++ d.calls f s, (rewriteTree f d s).1), (rewriteTree f d s).2) := by
  induction d using children_induction with
  | step d ih =>
    intro log s
    rcases hf : f s d with ⟨s', answer⟩
    have hlog : logging f (log, s) d = ((log ++ [(d, answer)], s'), answer) := by
      simp only [logging, hf]
    cases answer with
    | keep =>
      rw [rewriteTree_of_keep hlog, rewriteTree_of_keep hf, calls_of_ne_descend hf nofun]
    | replace e =>
      rw [rewriteTree_of_replace hlog, rewriteTree_of_replace hf, calls_of_ne_descend hf nofun]
    | descend =>
      rw [rewriteTree_of_descend hlog, rewriteTree_of_descend hf, calls_of_descend hf,
        rewriteEach_logging ih, List.append_assoc]
      rfl

/-! ## Without replacements -/

/-- A node stays as it is if all of its children do. -/
theorem rebuild_eq_none {changes : List Change} (h : ∀ c ∈ changes, c = none) :
    d.rebuild changes = none := by
  have told (i : Nat) : changes.getD i none = none := by
    rw [List.getD_eq_getElem?_getD]
    cases hi : changes[i]? with
    | none => rfl
    | some c => exact h c (List.mem_of_getElem? hi)
  cases d <;> simp only [rebuild, told, rebuildTwo, rebuildOne, Option.map_none]

theorem rewriteEach_eq_none {ds : List Doc}
    (h : ∀ d ∈ ds, ∀ s, (∀ call ∈ d.calls f s, ∀ e, call.2 ≠ .replace e) →
      (rewriteTree f d s).2 = none)
    (s : σ) (hcalls : ∀ call ∈ callsEach f ds s, ∀ e, call.2 ≠ .replace e) :
    ∀ c ∈ (rewriteEach f ds s).2, c = none := by
  induction ds generalizing s with
  | nil => nofun
  | cons d ds ih =>
    obtain ⟨hd, hds⟩ := List.forall_mem_cons.1 h
    obtain ⟨hcall, hcalls⟩ := List.forall_mem_append.1 hcalls
    exact List.forall_mem_cons.2 ⟨hd s hcall, ih hds _ hcalls⟩

/-- Where nothing is replaced, nothing changes. -/
theorem rewriteTree_eq_none (d : Doc) :
    ∀ s : σ, (∀ call ∈ d.calls f s, ∀ e, call.2 ≠ .replace e) → (rewriteTree f d s).2 = none := by
  induction d using children_induction with
  | step d ih =>
    intro s hcalls
    rcases hf : f s d with ⟨s', answer⟩
    cases answer with
    | keep => rw [rewriteTree_of_keep hf]
    | replace e =>
      rw [calls_of_ne_descend hf nofun, List.forall_mem_singleton] at hcalls
      exact absurd rfl (hcalls e)
    | descend =>
      rw [calls_of_descend hf, List.forall_mem_cons] at hcalls
      rw [rewriteTree_of_descend hf]
      exact rebuild_eq_none (rewriteEach_eq_none ih s' hcalls.2)

/-! ## The pass and the recursion -/

/-- *A rewrite is the recursion from the top.* The pass comes to its end with nothing left to be
done and one change, which is that of the recursion, as is the state. It asks about the same nodes
in the same order and gets the same answers. In the recursion, a node that is gone into is rebuilt
from what becomes of its children, and asked about before them. In the whole course of the pass
every node that is rebuilt finds the changes of its children, one for each, on top of what was
finished before. And if no answer is a replacement, the document stays the very same. -/
theorem rewrite_refines_rewriteTree (f : σ → Doc → σ × Rewrite) (s : σ) (d : Doc) :
    (⟨(rewriteTree f d s).1, [], [(rewriteTree f d s).2]⟩ ∈
        StateTransition.eval (Pass.next? f) (Pass.start s d) ∧
      rewriteLoop f s [.visit d] [] = ((rewriteTree f d s).1, [(rewriteTree f d s).2])) ∧
    rewrite f s d = rewriteTree f d s ∧
    rewrite (logging f) ([], s) d =
      ((d.calls f s, (rewriteTree f d s).1), (rewriteTree f d s).2) ∧
    (∀ (e : Doc) (s s' : σ), f s e = (s', .descend) →
      rewriteTree f e s =
          ((rewriteEach f e.children s').1, e.rebuild (rewriteEach f e.children s').2) ∧
        e.calls f s = (e, .descend) :: callsEach f e.children s') ∧
    (∀ p, Reaches (Pass.next? f) (Pass.start s d) p → p.FindsChanges f (Pass.start s d)) ∧
    ((∀ call ∈ d.calls f s, ∀ e, call.2 ≠ .replace e) → (rewrite f s d).2 = none) := by
  have turns := Pass.reaches_of_steps (Pass.steps_start f s d)
  have loop : rewriteLoop f s [.visit d] [] = ((rewriteTree f d s).1, [(rewriteTree f d s).2]) :=
    (Pass.finish_of_reaches turns).trans (by rw [Pass.finish, rewriteLoop])
  refine ⟨⟨StateTransition.mem_eval.2 ⟨turns, rfl⟩, loop⟩, rewrite_eq_rewriteTree f s d, ?_,
    fun e s s' h => ⟨rewriteTree_of_descend h, calls_of_descend h⟩,
    fun p => Pass.findsChanges_of_reaches, fun h => ?_⟩
  · rw [rewrite_eq_rewriteTree, rewriteTree_logging, List.nil_append]
  · rw [rewrite_eq_rewriteTree, rewriteTree_eq_none d s h]

/-- Two texts are put into columns, each into the next one; the scope between them is kept. When the
inner concatenation is rebuilt, it finds the change of its text, and none of its line end. A rewrite
that only counts changes nothing. -/
theorem rewrite_refines_rewriteTree_levels :
    let spread (level : Nat) : Doc → Nat × Rewrite
      | .text content _ => (level + 1, .replace (.text content (some level)))
      | .align _ => (level, .keep)
      | _ => (level, .descend)
    let count (n : Nat) (_ : Doc) : Nat × Rewrite := (n + 1, .descend)
    let inner := Doc.cat (.text "a" none) .softLine
    let last := Doc.cat (.align (.text "b" none)) (.text "c" none)
    let d := Doc.cat (.nest inner) last
    let p : Pass Nat :=
      ⟨1, [.build inner, .build (.nest inner), .visit last, .build d],
        [none, some (.text "a" (some 0))]⟩
    Reaches (Pass.next? spread) (Pass.start 0 d) p ∧ p.FindsChanges spread (Pass.start 0 d) ∧
      rewrite spread 0 d =
        (2, some (.cat (.nest (.cat (.text "a" (some 0)) .softLine))
          (.cat (.align (.text "b" none)) (.text "c" (some 1))))) ∧
      (rewrite count 0 d).2 = none := by
  intro spread count inner last d p
  have hrun : Reaches (Pass.next? spread) (Pass.start 0 d) p :=
    .head rfl (.head rfl (.head rfl (.head rfl (.head rfl (.head rfl .refl)))))
  obtain ⟨-, hrewrite, -, -, found, -⟩ := rewrite_refines_rewriteTree spread 0 d
  obtain ⟨-, -, -, -, -, kept⟩ := rewrite_refines_rewriteTree count 0 d
  have answers : ∀ call ∈ d.calls count 0, call.2 = .descend := by decide
  refine ⟨hrun, found p hrun, hrewrite.trans (by decide), kept fun call h e => ?_⟩
  rw [answers call h]
  nofun

end Doc

end VhdlLayout
