import Mathlib
import VhdlLayout.Proofs.Doc.Normal

/-!
# Built documents

Documents are obtained by the building forms, never by the bare constructors. A
document is *built* (`Doc.Built`) if it comes from those forms, or from a pass
over a built document that puts nothing but documents in normal form in the
place of nodes.

All nodes of a document in normal form are in normal form, so a pass only ever
looks at such. What changes bring together within a concatenation is merged when
the node is rebuilt, for it is rebuilt by concatenation.

* `Doc.isNormal_of_mem_rebuild`: the step, what becomes of one node;
* `Doc.isNormal_of_mem_rewriteTree`: by induction, what becomes of a document;
* `Doc.Built.isNormal`: every built document is in normal form.
-/

namespace VhdlLayout.Doc

variable {d e left right : Doc} {σ : Type}

/-! ## What becomes of one node -/

theorem isNormal_of_mem_children (hd : d.IsNormal) (h : e ∈ d.children) : e.IsNormal := by
  cases d with
  | cat left right =>
    rcases List.mem_pair.1 h with rfl | rfl
    · exact hd.1
    · exact hd.2.1
  | union flat broken =>
    rcases List.mem_pair.1 h with rfl | rfl
    · exact hd.1
    · exact hd.2
  | nest | hang | align =>
    rw [List.mem_singleton.1 h]
    exact hd
  | _ => cases h

theorem isNormal_getD {change : Change} (hd : d.IsNormal) (h : ∀ e ∈ change, e.IsNormal) :
    (change.getD d).IsNormal := by
  cases change with
  | none => exact hd
  | some e => exact h e rfl

/-- A change that is not told is none. -/
theorem isNormal_of_mem_getD {changes : List Change} (h : ∀ c ∈ changes, ∀ e ∈ c, e.IsNormal)
    (i : Nat) : ∀ e ∈ changes.getD i none, e.IsNormal := by
  intro e he
  rw [List.getD_eq_getElem?_getD] at he
  cases hi : changes[i]? with
  | none =>
    rw [hi] at he
    cases he
  | some c =>
    rw [hi] at he
    exact h c (List.mem_of_getElem? hi) e he

theorem eq_of_mem_rebuildTwo {make : Doc → Doc → Doc} {a b : Change}
    (h : e ∈ rebuildTwo make left right a b) : e = make (a.getD left) (b.getD right) := by
  cases a <;> cases b <;> cases h <;> rfl

/-- A node in normal form is rebuilt in normal form if what becomes of its children is. -/
theorem isNormal_of_mem_rebuild {changes : List Change} (hd : d.IsNormal)
    (h : ∀ c ∈ changes, ∀ e ∈ c, e.IsNormal) : ∀ e ∈ d.rebuild changes, e.IsNormal := by
  intro e he
  have told := isNormal_of_mem_getD h
  cases d with
  | cat left right =>
    rw [eq_of_mem_rebuildTwo he]
    exact isNormal_concat (isNormal_getD hd.1 (told 0)) (isNormal_getD hd.2.1 (told 1))
  | union flat broken =>
    rw [eq_of_mem_rebuildTwo he]
    exact ⟨isNormal_getD hd.1 (told 0), isNormal_getD hd.2 (told 1)⟩
  | nest child | hang child | align child =>
    obtain ⟨child', hchild, rfl⟩ := Option.map_eq_some_iff.1 he
    exact told 0 child' hchild
  | _ => cases he

/-! ## What becomes of a document -/

/-- Whatever the rewrite puts in the place of a node in normal form is in normal form. -/
def KeepsNormal (f : σ → Doc → σ × Rewrite) : Prop :=
  ∀ s d s' e, d.IsNormal → f s d = (s', .replace e) → e.IsNormal

/-- A rewrite that replaces nodes by documents in normal form only leads to normal form. -/
theorem isNormal_of_mem_rewriteTree {f : σ → Doc → σ × Rewrite} (hf : KeepsNormal f)
    (hd : d.IsNormal) (s : σ) : ∀ e ∈ (rewriteTree f d s).2, e.IsNormal := by
  refine rewriteTree_induction (P := fun d change => d.IsNormal → ∀ e ∈ change, e.IsNormal)
    (fun _ _ _ h => nomatch h) ?_ ?_ d s hd
  · rintro s d s' e h hd _ ⟨⟩
    exact hf s d s' e hd h
  · intro d changes hlen h hd
    -- The nodes below are in normal form as the node is, so what holds of them given that does hold.
    refine isNormal_of_mem_rebuild hd fun c hc => ?_
    rw [← List.map_snd_zip (Nat.le_of_eq hlen)] at hc
    obtain ⟨⟨child, c⟩, hmem, rfl⟩ := List.mem_map.1 hc
    exact h _ hmem (isNormal_of_mem_children hd (List.of_mem_zip hmem).1)

theorem isNormal_rewrite {f : σ → Doc → σ × Rewrite} (hf : KeepsNormal f) (hd : d.IsNormal)
    (s : σ) : ((rewrite f s d).2.getD d).IsNormal := by
  rw [rewrite_eq_rewriteTree]
  exact isNormal_getD hd (isNormal_of_mem_rewriteTree hf hd s)

/-- To put spaces behind the text of a column is to concatenate the two. -/
theorem keepsNormal_pad (ws : Widths) : KeepsNormal fun (_ : Unit) d => ((), pad ws d) := by
  intro _ d _ e hd h
  have hpad : pad ws d = .replace e := congrArg Prod.snd h
  rw [pad] at hpad
  split at hpad
  · cases hpad
  · split at hpad
    · split at hpad
      · cases hpad
      · cases hpad
        exact isNormal_concat hd trivial
    · cases hpad

theorem isNormal_resolved (hd : d.IsNormal) : d.resolved.IsNormal := by
  rw [resolved, resolve, padAll]
  split
  · exact hd
  · exact isNormal_rewrite (keepsNormal_pad _) hd ()

/-! ## Every way to obtain a document -/

/-- The document can be obtained: it is built by the building forms, a node of a document that can
be obtained, or the outcome of a pass over one. -/
inductive Built : Doc → Prop where
  | empty : Built .empty
  | text (content : String) : Built (.text content none)
  | alignText (content : String) (level : Nat) : Built (.text content (some level))
  | keyword (content : String) : Built (.keyword content none)
  | alignKeyword (content : String) (level : Nat) : Built (.keyword content (some level))
  | softLine : Built .softLine
  | hardLine : Built .hardLine
  | hardBreaks (count : Nat) : Built (hardBreaks count)
  | concat {a b : Doc} : Built a → Built b → Built (concat a b)
  | append {a b : Doc} : Built a → Built b → Built (a ++ b)
  | concatAll {ds : List Doc} : (∀ d ∈ ds, Built d) → Built (concatAll ds)
  | join {sep : Doc} {ds : List Doc} : Built sep → (∀ d ∈ ds, Built d) → Built (join sep ds)
  | optional {d : Option Doc} : (∀ e ∈ d, Built e) → Built (optional d)
  | nest {child : Doc} : Built child → Built (.nest child)
  | hang {child : Doc} : Built child → Built (.hang child)
  | union {flat broken : Doc} : Built flat → Built broken → Built (.union flat broken)
  | align {child : Doc} : Built child → Built (.align child)
  | child {d e : Doc} : Built d → e ∈ d.children → Built e
  /-- The children may be looked at one after the other, so what becomes of one may depend on those
  before it. -/
  | rebuild {d : Doc} {changes : List Change} : Built d → (∀ c ∈ changes, ∀ e ∈ c, e.IsNormal) →
      Built ((d.rebuild changes).getD d)
  | mapChildren {d : Doc} {f : Doc → Change} : Built d →
      (∀ child ∈ d.children, ∀ e ∈ f child, e.IsNormal) → Built ((d.mapChildren f).getD d)
  | rewrite {d : Doc} {σ : Type} {f : σ → Doc → σ × Rewrite} (s : σ) : Built d → KeepsNormal f →
      Built ((rewrite f s d).2.getD d)
  | resolved {d : Doc} : Built d → Built d.resolved

/-- Every document that can be obtained is in normal form. -/
theorem Built.isNormal (h : Built d) : d.IsNormal := by
  induction h with
  | empty | text | alignText | keyword | alignKeyword | softLine | hardLine => trivial
  | hardBreaks count => exact isNormal_hardBreaks count
  | concat _ _ iha ihb => exact isNormal_concat iha ihb
  | append _ _ iha ihb => exact isNormal_concat iha ihb
  | concatAll _ ih => exact isNormal_concatAll ih
  | join _ _ ihsep ih => exact isNormal_join ihsep ih
  | optional _ ih => exact isNormal_getD trivial ih
  | nest _ ih | hang _ ih | align _ ih => exact ih
  | union _ _ ihf ihb => exact ⟨ihf, ihb⟩
  | child _ he ih => exact isNormal_of_mem_children ih he
  | rebuild _ hc ih => exact isNormal_getD ih (isNormal_of_mem_rebuild ih hc)
  | mapChildren _ hf ih =>
    refine isNormal_getD ih (isNormal_of_mem_rebuild ih fun c hc => ?_)
    obtain ⟨child, hchild, rfl⟩ := List.mem_map.1 hc
    exact hf child hchild
  | rewrite s _ hf ih => exact isNormal_rewrite hf ih s
  | resolved _ ih => exact isNormal_resolved ih

/-- Padding meets plain text: the spaces behind the narrower name become one text with what stands
behind them. -/
theorem isNormal_resolved_columns :
    let row (name : String) := concat (.text name (some 0)) (.text " : bit" none)
    let table := join .hardLine [row "clk", row "reset"]
    table.resolved =
        .cat (.cat (.cat (.text "clk" (some 0)) (.text "   : bit" none)) .hardLine)
          (.cat (.text "reset" (some 0)) (.text " : bit" none)) ∧
      Built table.resolved ∧ table.resolved.IsNormal := by
  intro row table
  have built_row (name : String) : Built (row name) := .concat (.alignText name 0) (.text _)
  have built : Built table.resolved := .resolved <| .join .hardLine fun d hd => by
    rcases List.mem_pair.1 hd with rfl | rfl
    · exact built_row _
    · exact built_row _
  exact ⟨by cbv, built, built.isNormal⟩

end VhdlLayout.Doc
