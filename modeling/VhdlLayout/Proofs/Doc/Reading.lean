import Mathlib
import VhdlLayout.Proofs.Doc.Recursion

/-!
# What is read off a document

Much of what can be asked about a document is read off its leaves and put
together along the way: which characters it holds, how wide it is, whether all of
its unions are of some sort. Such a reading (`IsReading`) does not see whether
neighbouring leaves have been merged, and so it does not see how documents have
been put together:

* `IsReading.concat`: what is read off a concatenation is put together from what is
  read off its sides;
* `IsReading.resolved`: what is read off a scope whose columns have been made
  equally wide, if it is known of every text of a column with the spaces behind it
  (`IsPadded`).

The first thing to be read off is of which kind the characters are
(`Doc.AllChars`).

The documents need not be in normal form.
-/

namespace VhdlLayout.Doc

variable {M : Type*} {op : M → M → M} {reading reading' : Doc → M} {ws : Widths}

/-- What is read off a concatenation is put together from its sides, and what is read off a merged
leaf from the two that it is made of. The empty document adds nothing. -/
structure IsReading (op : M → M → M) (reading : Doc → M) : Prop where
  assoc (x y z : M) : op (op x y) z = op x (op y z)
  empty_op (d : Doc) : op (reading .empty) (reading d) = reading d
  op_empty (d : Doc) : op (reading d) (reading .empty) = reading d
  cat (left right : Doc) : reading (.cat left right) = op (reading left) (reading right)
  merge {a b leaf : Doc} : merge? a b = some leaf → reading leaf = op (reading a) (reading b)

namespace IsReading

theorem replaceLast (h : IsReading op reading) {d e : Doc} {x : M}
    (he : reading e = op (reading d.last) x) :
    reading (d.replaceLast e) = op (reading d) x := by
  induction d with
  | cat left right _ ih => rw [Doc.replaceLast, h.cat, ih he, h.cat, h.assoc]
  | _ => exact he

theorem replaceFirst (h : IsReading op reading) {d e : Doc} {x : M}
    (he : reading e = op x (reading d.first)) :
    reading (d.replaceFirst e) = op x (reading d) := by
  induction d with
  | cat left right ih _ => rw [Doc.replaceFirst, h.cat, ih he, h.cat, h.assoc]
  | _ => exact he

/-- Documents that are put together are read one after the other. -/
theorem concat (h : IsReading op reading) (a b : Doc) :
    reading (concat a b) = op (reading a) (reading b) := by
  fun_cases Doc.concat a b with
  | case1 ha =>
    cases a with
    | empty => rw [h.empty_op]
    | _ => cases ha
  | case2 _ hb =>
    cases b with
    | empty => rw [h.op_empty]
    | _ => cases hb
  | case3 _ _ leaf hleaf => exact h.replaceLast (h.replaceFirst (h.merge hleaf))
  | case4 => exact h.cat a b

/-- Documents with another one between each two are read from the left to the right. -/
theorem join (h : IsReading op reading) (sep d : Doc) (ds : List Doc) :
    reading (Doc.join sep (d :: ds)) =
      ds.foldl (fun x e => op (op x (reading sep)) (reading e)) (reading d) := by
  rw [Doc.join, concat_empty_left]
  refine (List.foldl_hom reading fun x e => ?_).symm
  rw [h.concat, h.concat]

/-- A concatenation that a pass has been through is read as what has become of its sides, whether it
has been put together again or not. -/
theorem rebuildTwo (h : IsReading op reading) (left right : Doc) (a b : Change) :
    reading ((rebuildTwo Doc.concat left right a b).getD (.cat left right)) =
      op (reading (a.getD left)) (reading (b.getD right)) := by
  cases a <;> cases b <;> simp only [Doc.rebuildTwo, Option.getD_none, Option.getD_some, h.cat,
    h.concat]

end IsReading

/-! ## Scopes -/

/-- A scope whose columns are padded to the widths `ws` is read as `reading'` says of the scope: this
is so of its texts with the spaces behind them, and of a node if it is of its children. -/
structure IsPadded (ws : Widths) (op : M → M → M) (reading reading' : Doc → M) : Prop where
  cat (left right : Doc) : reading' (.cat left right) = op (reading' left) (reading' right)
  union {a a' b b' : Doc} : reading a = reading' a' → reading b = reading' b' →
    reading (.union a b) = reading' (.union a' b')
  nest {a a' : Doc} : reading a = reading' a' → reading (.nest a) = reading' (.nest a')
  hang {a a' : Doc} : reading a = reading' a' → reading (.hang a) = reading' (.hang a')
  scope (child : Doc) : reading (.align child) = reading' (.align child)
  leaf {d : Doc} : d.children = [] → d.cell? = none → reading d = reading' d
  full {d : Doc} {level width : Nat} : d.cell? = some (level, width) → lack ws level width = 0 →
    reading d = reading' d
  short {d : Doc} {level width : Nat} : d.cell? = some (level, width) → lack ws level width ≠ 0 →
    op (reading d) (reading (padding (lack ws level width))) = reading' d

/-- The pass that pads puts spaces behind the texts of columns that are too narrow. -/
theorem rewriteTree_pad_of_cell? {d : Doc} {level width : Nat} (h : d.cell? = some (level, width)) :
    (rewriteTree (fun (_ : Unit) e => ((), pad ws e)) d ()).2 =
      if lack ws level width = 0 then none else some (concat d (padding (lack ws level width))) := by
  have hscope : d.isScope = false := by
    cases d with
    | align => cases h
    | _ => rfl
  have hpad : pad ws d = if lack ws level width = 0 then .keep
      else .replace (concat d (padding (lack ws level width))) := by
    rw [pad, hscope, if_neg Bool.false_ne_true, h]
  rw [rewriteTree]
  dsimp only
  rw [hpad]
  by_cases hlack : lack ws level width = 0
  · rw [if_pos hlack, if_pos hlack]
  · rw [if_neg hlack, if_neg hlack]

theorem getD_rewriteTree_pad_of_cell? {d : Doc} {level width : Nat}
    (h : d.cell? = some (level, width)) :
    (rewriteTree (fun (_ : Unit) e => ((), pad ws e)) d ()).2.getD d =
      if lack ws level width = 0 then d else concat d (padding (lack ws level width)) := by
  rw [rewriteTree_pad_of_cell? h, apply_ite (Option.getD · d), Option.getD_none, Option.getD_some]

/-- The texts of a scope that belong to columns, each by its level and its width. Those of a scope
within it belong to columns of that scope. -/
def cells : Doc → List (Nat × Nat)
  | .cat left right | .union left right => left.cells ++ right.cells
  | .nest child | .hang child => child.cells
  | .align _ => []
  | d => d.cell?.toList

theorem rebuildTwo_eq_none_iff {make : Doc → Doc → Doc} {left right : Doc} {a b : Change} :
    rebuildTwo make left right a b = none ↔ a = none ∧ b = none := by
  cases a <;> cases b <;> simp [rebuildTwo]

/-- A scope stays as it is if none of its texts is narrower than its column. -/
theorem rewriteTree_pad_eq_none_iff (ws : Widths) (d : Doc) :
    (rewriteTree (fun (_ : Unit) e => ((), pad ws e)) d ()).2 = none ↔
      ∀ c ∈ d.cells, lack ws c.1 c.2 = 0 := by
  induction d with
  | cat left right ihl ihr | union left right ihl ihr =>
    rw [cells, List.forall_mem_append, ← ihl, ← ihr]
    exact rebuildTwo_eq_none_iff
  | nest child ih | hang child ih =>
    rw [cells, ← ih]
    exact Option.map_eq_none_iff
  | text content level | keyword content level =>
    cases level with
    | none => simp [rewriteTree, pad, isScope, cell?, cells]
    | some level =>
      by_cases hlack : lack ws level content.length = 0
      · simp [rewriteTree, pad, isScope, cell?, cells, hlack]
      · simp [rewriteTree, pad, isScope, cell?, cells, hlack]
  | _ => simp [rewriteTree, pad, isScope, cell?, cells]

theorem resolve_eq_rewriteTree (d : Doc) :
    d.resolve = (rewriteTree (fun (_ : Unit) e => ((), pad d.measure e)) d ()).2 := by
  rw [resolve, padAll]
  split
  · next h =>
    rw [List.isEmpty_iff.1 h, eq_comm, rewriteTree_pad_eq_none_iff]
    exact fun _ _ => Nat.zero_sub _
  · rw [rewrite_eq_rewriteTree]

/-- What is read off a document after its columns have been padded. -/
theorem IsPadded.getD_rewriteTree (hr : IsReading op reading)
    (hp : IsPadded ws op reading reading') (d : Doc) :
    reading ((rewriteTree (fun (_ : Unit) e => ((), pad ws e)) d ()).2.getD d) = reading' d := by
  have cell {d : Doc} {level width : Nat} (h : d.cell? = some (level, width)) :
      reading ((rewriteTree (fun (_ : Unit) e => ((), pad ws e)) d ()).2.getD d) = reading' d := by
    rw [getD_rewriteTree_pad_of_cell? h]
    split
    · next hlack => exact hp.full h hlack
    · next hlack => rw [hr.concat, hp.short h hlack]
  induction d with
  | cat left right ihl ihr =>
    rw [hp.cat, ← ihl, ← ihr, ← hr.rebuildTwo]
    rfl
  | union flat broken ihf ihb =>
    rw [← hp.union ihf ihb, ← getD_rebuildTwo .union]
    rfl
  | nest child ih =>
    rw [← hp.nest ih, ← getD_rebuildOne .nest]
    rfl
  | hang child ih =>
    rw [← hp.hang ih, ← getD_rebuildOne .hang]
    rfl
  | align child => exact hp.scope child
  | text content level | keyword content level =>
    cases level with
    | none => exact hp.leaf rfl rfl
    | some level => exact cell rfl
  | _ => exact hp.leaf rfl rfl

/-- What is read off a scope whose columns have been made equally wide. -/
theorem IsReading.resolved (hr : IsReading op reading) {d : Doc}
    (hp : IsPadded d.measure op reading reading') : reading d.resolved = reading' d := by
  rw [Doc.resolved, resolve_eq_rewriteTree, hp.getD_rewriteTree hr]

/-! ## Characters -/

/-- Every character of a leaf, in whichever document of a union it may stand, is of the kind. -/
def AllChars (kind : Char → Prop) : Doc → Prop
  | .text content _ | .keyword content _ => ∀ c ∈ content.toList, kind c
  | .cat left right => left.AllChars kind ∧ right.AllChars kind
  | .union flat broken => flat.AllChars kind ∧ broken.AllChars kind
  | .nest child | .hang child | .align child => child.AllChars kind
  | _ => True

variable {kind : Char → Prop}

instance AllChars.decidable (kind : Char → Prop) [DecidablePred kind] :
    (d : Doc) → Decidable (d.AllChars kind)
  | .text content _ | .keyword content _ => List.decidableBAll kind content.toList
  | .cat left right | .union left right =>
    @instDecidableAnd _ _ (decidable kind left) (decidable kind right)
  | .nest child | .hang child | .align child => decidable kind child
  | .empty | .softLine | .hardLine | .hardLines _ => .isTrue trivial

theorem allChars_true (d : Doc) : d.AllChars fun _ => True := by
  induction d with
  | cat _ _ ihl ihr | union _ _ ihl ihr => exact ⟨ihl, ihr⟩
  | nest _ ih | hang _ ih | align _ ih => exact ih
  | _ => simp [AllChars]

theorem isReading_allChars (kind : Char → Prop) : IsReading And (AllChars kind) where
  assoc x y z := propext and_assoc
  empty_op d := true_and _
  op_empty d := and_true _
  cat left right := rfl
  merge {a b leaf} h := by
    have breaks {d : Doc} (h : d.grain? = some .breaks) : d.AllChars kind = True := by
      rcases eq_of_breaks h with rfl | ⟨count, rfl⟩ <;> rfl
    rcases eq_of_merge? h with ⟨s, t, rfl, rfl, rfl⟩ | ⟨s, t, rfl, rfl, rfl⟩ | ⟨ha, hb, hleaf⟩
    · simp only [AllChars, String.toList_append, List.forall_mem_append]
    · simp only [AllChars, String.toList_append, List.forall_mem_append]
    · rw [breaks ha, breaks hb, breaks hleaf, true_and]

theorem isPadded_allChars (ws : Widths) (h : kind ' ') :
    IsPadded ws And (AllChars kind) (AllChars kind) where
  cat left right := rfl
  union ha hb := by rw [AllChars, ha, hb, AllChars]
  nest h := h
  hang h := h
  scope child := rfl
  leaf _ _ := rfl
  full _ _ := rfl
  short {d level width} _ _ := by
    have spaces : (padding (lack ws level width)).AllChars kind := by
      intro c hc
      rw [String.toList_ofList] at hc
      rwa [List.eq_of_mem_replicate hc]
    simp only [spaces, and_true]

/-- Making columns equally wide brings nothing but spaces. -/
theorem allChars_scopeContent (h : kind ' ') (aligned : Bool) (d : Doc) :
    (d.scopeContent aligned).AllChars kind ↔ d.AllChars kind := by
  rw [scopeContent]
  split
  · rw [(isReading_allChars kind).resolved (isPadded_allChars d.measure h)]
  · rfl

end VhdlLayout.Doc
