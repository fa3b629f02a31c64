import Mathlib
import VhdlLayout.Proofs.Doc.Columns
import VhdlLayout.Proofs.Doc.Rendering

/-!
# Levels as names

The level of a text is no more than the name of its column, and a name counts only within
the nearest scope around the text. Other levels may be given to the texts of a document
(`Doc.Relabelled`), in each scope by a renaming of its own that keeps different columns
apart, and to texts outside of all scopes at will.

The renaming of a scope outlives the scope: once the columns are padded, the texts are
laid out with what is around them, and scopes within wait for their own turn. So two
documents are followed whose levels are related in one way outside of their scopes,
whatever it is, and in some injective way within each:

* `Doc.Relabelled.concat`: leaves that have a level never merge, so the two documents are
  put together alike;
* `Doc.Relabelled.scopeContent`: renamed columns are measured at the same widths, so the
  texts are padded by the same spaces;
* `Doc.Relabelled.rendering`: the documents are laid out alike.
-/

namespace VhdlLayout.Doc

/-- The levels of the columns of a scope. -/
def levels (d : Doc) : Set Nat := {level | ∃ width, (level, width) ∈ d.cells}

/-- The documents are the same but for the levels of their texts. Outside of their scopes the levels
are related by `own`. In each scope those of the one document are those of the other under a
renaming of that scope, which gives different levels to different columns. -/
inductive Relabelled : (own : Nat → Nat → Prop) → Doc → Doc → Prop
  | leaf {own : Nat → Nat → Prop} {d : Doc} : d.children = [] → d.cell? = none →
      Relabelled own d d
  | text {own : Nat → Nat → Prop} {level level' : Nat} (content : String) : own level level' →
      Relabelled own (.text content (some level)) (.text content (some level'))
  | keyword {own : Nat → Nat → Prop} {level level' : Nat} (content : String) : own level level' →
      Relabelled own (.keyword content (some level)) (.keyword content (some level'))
  | cat {own : Nat → Nat → Prop} {left left' right right' : Doc} : Relabelled own left left' →
      Relabelled own right right' → Relabelled own (.cat left right) (.cat left' right')
  | union {own : Nat → Nat → Prop} {flat flat' broken broken' : Doc} : Relabelled own flat flat' →
      Relabelled own broken broken' → Relabelled own (.union flat broken) (.union flat' broken')
  | nest {own : Nat → Nat → Prop} {child child' : Doc} : Relabelled own child child' →
      Relabelled own (.nest child) (.nest child')
  | hang {own : Nat → Nat → Prop} {child child' : Doc} : Relabelled own child child' →
      Relabelled own (.hang child) (.hang child')
  | align {own : Nat → Nat → Prop} {rename : Nat → Nat} {child child' : Doc} :
      child.levels.InjOn rename →
      Relabelled (fun level level' => rename level = level') child child' →
      Relabelled own (.align child) (.align child')

namespace Relabelled

variable {own : Nat → Nat → Prop} {rename : Nat → Nat} {a a' b b' d d' e e' : Doc}

/-! ## Concatenation -/

theorem isEmpty_eq (h : Relabelled own d d') : d'.isEmpty = d.isEmpty := by
  cases h <;> rfl

/-- Texts of columns cannot be merged, whatever their level is. -/
theorem grain?_eq (h : Relabelled own d d') : d'.grain? = d.grain? := by
  cases h <;> rfl

theorem eq_of_grain? {g : Grain} (h : Relabelled own d d') (hg : d.grain? = some g) : d' = d := by
  cases h with
  | leaf => rfl
  | _ => cases hg

theorem of_grain? {g : Grain} (hg : d.grain? = some g) : Relabelled own d d := by
  revert hg
  fun_cases grain? d <;> intro hg
  all_goals first | exact .leaf rfl rfl | cases hg

theorem merge?_eq (ha : Relabelled own a a') (hb : Relabelled own b b') :
    merge? a' b' = merge? a b := by
  cases h : merge? a b with
  | some leaf =>
    obtain ⟨g, hag, hbg, -⟩ := grain?_of_merge? h
    rw [ha.eq_of_grain? hag, hb.eq_of_grain? hbg, h]
  | none =>
    cases h' : merge? a' b' with
    | none => rfl
    | some leaf =>
      obtain ⟨g, hag, hbg, -⟩ := grain?_of_merge? h'
      rw [ha.grain?_eq] at hag
      rw [hb.grain?_eq] at hbg
      rw [ha.eq_of_grain? hag, hb.eq_of_grain? hbg, h] at h'
      cases h'

theorem last (h : Relabelled own d d') : Relabelled own d.last d'.last := by
  induction d generalizing d' with
  | cat left right _ ihr =>
    cases h with
    | leaf hchildren => cases hchildren
    | cat _ hr =>
      rw [Doc.last, Doc.last]
      exact ihr hr
  | _ =>
    have same := h
    cases h <;> exact same

theorem first (h : Relabelled own d d') : Relabelled own d.first d'.first := by
  induction d generalizing d' with
  | cat left right ihl _ =>
    cases h with
    | leaf hchildren => cases hchildren
    | cat hl _ =>
      rw [Doc.first, Doc.first]
      exact ihl hl
  | _ =>
    have same := h
    cases h <;> exact same

theorem replaceLast (h : Relabelled own d d') (he : Relabelled own e e') :
    Relabelled own (d.replaceLast e) (d'.replaceLast e') := by
  induction d generalizing d' with
  | cat left right _ ihr =>
    cases h with
    | leaf hchildren => cases hchildren
    | cat hl hr => exact .cat hl (ihr hr)
  | _ => cases h <;> exact he

theorem replaceFirst (h : Relabelled own d d') (he : Relabelled own e e') :
    Relabelled own (d.replaceFirst e) (d'.replaceFirst e') := by
  induction d generalizing d' with
  | cat left right ihl _ =>
    cases h with
    | leaf hchildren => cases hchildren
    | cat hl hr => exact .cat (ihl hl) hr
  | _ => cases h <;> exact he

/-- Documents are put together alike, whatever the levels of their texts. -/
theorem concat (ha : Relabelled own a a') (hb : Relabelled own b b') :
    Relabelled own (concat a b) (concat a' b') := by
  rw [Doc.concat, Doc.concat, ha.isEmpty_eq, hb.isEmpty_eq, ha.last.merge?_eq hb.first]
  split
  · exact hb
  · split
    · exact ha
    · split
      · next leaf hleaf =>
        obtain ⟨g, -, -, hg⟩ := grain?_of_merge? hleaf
        exact ha.replaceLast (hb.replaceFirst (of_grain? hg))
      · exact .cat ha hb

theorem concatAll {ds ds' : List Doc} (h : List.Forall₂ (Relabelled own) ds ds') :
    Relabelled own (Doc.concatAll ds) (Doc.concatAll ds') :=
  List.rel_foldl (fun _ _ ha _ _ hb => ha.concat hb) (.leaf rfl rfl) h

/-! ## Columns -/

theorem mem_levels_of_mem_cells {c : Nat × Nat} (h : c ∈ d.cells) : c.1 ∈ d.levels := ⟨c.2, h⟩

theorem cells_of_leaf (hchildren : d.children = []) (hcell : d.cell? = none) : d.cells = [] := by
  cases d with
  | text _ level | keyword _ level =>
    cases level with
    | none => rfl
    | some => cases hcell
  | empty | softLine | hardLine | hardLines => rfl
  | _ => cases hchildren

/-- The cells of a renamed scope are those of the scope, under other levels. -/
theorem cells_eq (h : Relabelled (fun level level' => rename level = level') d d') :
    d'.cells = d.cells.map (Prod.map rename id) := by
  generalize hown : (fun level level' => rename level = level') = own at h
  induction h with
  | leaf hchildren hcell =>
    rw [cells_of_leaf hchildren hcell]
    rfl
  | text content hlevel | keyword content hlevel =>
    subst hown
    subst hlevel
    rfl
  | cat _ _ ihl ihr | union _ _ ihl ihr =>
    rw [cells, ihl hown, ihr hown, cells, List.map_append]
  | nest _ ih | hang _ ih => exact ih hown
  | align => rfl

theorem columnWidth_eq (h : Relabelled (fun level level' => rename level = level') d d')
    (hinj : d.levels.InjOn rename) {level : Nat} (hlevel : level ∈ d.levels) :
    d'.columnWidth (rename level) = d.columnWidth level := by
  have column : d'.column (rename level) = d.column level := by
    rw [Doc.column, Doc.column, h.cells_eq, List.filter_map, List.map_map]
    have same : d.cells.filter ((fun c => decide (c.1 = rename level)) ∘ Prod.map rename id) =
        d.cells.filter (·.1 = level) := by
      refine List.filter_congr fun c hc => ?_
      simpa using hinj.eq_iff (mem_levels_of_mem_cells hc) hlevel
    rw [same]
    rfl
  rw [columnWidth, columnWidth, column]

/-- A renamed column lacks as many spaces behind its texts. -/
theorem lack_eq (h : Relabelled (fun level level' => rename level = level') d d')
    (hinj : d.levels.InjOn rename) {c : Nat × Nat} (hc : c ∈ d.cells) :
    lack d'.measure (rename c.1) c.2 = lack d.measure c.1 c.2 := by
  rw [lack_measure, lack_measure, h.columnWidth_eq hinj (mem_levels_of_mem_cells hc)]

/-! ## Scopes -/

variable {make : Doc → Doc → Doc} {left left' right right' : Doc} {x x' y y' : Change}

theorem rebuildTwo (hmake : ∀ {a a' b b'}, Relabelled own a a' → Relabelled own b b' →
      Relabelled own (make a b) (make a' b'))
    (hl : Relabelled own left left') (hr : Relabelled own right right')
    (hx : Option.Rel (Relabelled own) x x') (hy : Option.Rel (Relabelled own) y y') :
    Option.Rel (Relabelled own) (rebuildTwo make left right x y)
      (rebuildTwo make left' right' x' y') := by
  cases hx with
  | none =>
    cases hy with
    | none => exact .none
    | some hy => exact .some (hmake hl hy)
  | some hx =>
    cases hy with
    | none => exact .some (hmake hx hr)
    | some hy => exact .some (hmake hx hy)

theorem rebuildOne {make : Doc → Doc}
    (hmake : ∀ {a a'}, Relabelled own a a' → Relabelled own (make a) (make a'))
    (hx : Option.Rel (Relabelled own) x x') :
    Option.Rel (Relabelled own) (rebuildOne make x) (rebuildOne make x') := by
  cases hx with
  | none => exact .none
  | some hx => exact .some (hmake hx)

theorem rewriteTree_pad_of_leaf (hchildren : d.children = []) (hcell : d.cell? = none)
    (ws : Widths) : (rewriteTree (fun (_ : Unit) e => ((), pad ws e)) d ()).2 = none := by
  rw [rewriteTree_pad_eq_none_iff, cells_of_leaf hchildren hcell]
  exact List.forall_mem_nil _

/-- Texts that lack as many spaces are padded alike. -/
theorem rewriteTree_pad_of_cell? {ws ws' : Widths} {level level' width : Nat}
    (h : Relabelled own d d') (hd : d.cell? = some (level, width))
    (hd' : d'.cell? = some (level', width)) (hlack : lack ws' level' width = lack ws level width) :
    Option.Rel (Relabelled own) (rewriteTree (fun (_ : Unit) e => ((), pad ws e)) d ()).2
      (rewriteTree (fun (_ : Unit) e => ((), pad ws' e)) d' ()).2 := by
  rw [Doc.rewriteTree_pad_of_cell? hd, Doc.rewriteTree_pad_of_cell? hd', hlack]
  split
  · exact .none
  · exact .some (h.concat (.leaf rfl rfl))

/-- Where renamed columns lack as many spaces, all texts of the scope are padded alike. -/
theorem rewriteTree_pad {ws ws' : Widths}
    (h : Relabelled (fun level level' => rename level = level') d d')
    (hlack : ∀ c ∈ d.cells, lack ws' (rename c.1) c.2 = lack ws c.1 c.2) :
    Option.Rel (Relabelled fun level level' => rename level = level')
      (rewriteTree (fun (_ : Unit) e => ((), pad ws e)) d ()).2
      (rewriteTree (fun (_ : Unit) e => ((), pad ws' e)) d' ()).2 := by
  generalize hown : (fun level level' => rename level = level') = own at h ⊢
  induction h with
  | @leaf _ d hchildren hcell =>
    rw [rewriteTree_pad_of_leaf hchildren hcell, rewriteTree_pad_of_leaf hchildren hcell]
    exact .none
  | text content hlevel =>
    refine (Relabelled.text content hlevel).rewriteTree_pad_of_cell? rfl rfl ?_
    subst hown hlevel
    exact hlack _ List.mem_cons_self
  | keyword content hlevel =>
    refine (Relabelled.keyword content hlevel).rewriteTree_pad_of_cell? rfl rfl ?_
    subst hown hlevel
    exact hlack _ List.mem_cons_self
  | cat hl hr ihl ihr =>
    obtain ⟨hlackl, hlackr⟩ := List.forall_mem_append.1 hlack
    exact rebuildTwo concat hl hr (ihl hlackl hown) (ihr hlackr hown)
  | union hf hb ihf ihb =>
    obtain ⟨hlackf, hlackb⟩ := List.forall_mem_append.1 hlack
    exact rebuildTwo .union hf hb (ihf hlackf hown) (ihb hlackb hown)
  | nest _ ih => exact rebuildOne .nest (ih hlack hown)
  | hang _ ih => exact rebuildOne .hang (ih hlack hown)
  | align => exact .none

theorem getD (h : Relabelled own d d') (hx : Option.Rel (Relabelled own) x x') :
    Relabelled own (x.getD d) (x'.getD d') := by
  cases hx with
  | none => exact h
  | some hx => exact hx

theorem scopeContent (h : Relabelled (fun level level' => rename level = level') d d')
    (hinj : d.levels.InjOn rename) (aligned : Bool) :
    Relabelled (fun level level' => rename level = level') (d.scopeContent aligned)
      (d'.scopeContent aligned) := by
  cases aligned with
  | false => exact h
  | true =>
    rw [Doc.scopeContent, Doc.scopeContent, if_pos rfl, if_pos rfl, resolved, resolved,
      resolve_eq_rewriteTree, resolve_eq_rewriteTree]
    exact h.getD (h.rewriteTree_pad fun c hc => h.lack_eq hinj hc)

/-! ## Layout -/

theorem flatWidth?_eq (h : Relabelled own d d') : d'.flatWidth? = d.flatWidth? := by
  induction h with
  | cat _ _ ihl ihr => rw [flatWidth?, ihl, ihr, flatWidth?]
  | union _ _ ihf => exact ihf
  | nest _ ih | hang _ ih | align _ _ ih => exact ih
  | _ => rfl

theorem fits_eq (h : Relabelled own d d') (columns : Int) : d'.fits columns = d.fits columns := by
  rw [Bool.eq_iff_iff, fits_iff, fits_iff, h.flatWidth?_eq]

/-- Documents that are the same but for their levels are laid out alike, wherever they stand. -/
theorem rendering (h : Relabelled own d d') (o : Options) (indent : Column) (mode : Mode)
    (column : Column) : d'.rendering o indent mode column = d.rendering o indent mode column := by
  -- The relation changes on the way into a scope, and then belongs to no scope any more.
  revert own d'
  fun_induction Doc.rendering o indent mode column d <;> intro own d' h
  case case1 | case4 | case5 | case6 | case7 =>
    cases h
    rw [Doc.rendering]
  case case2 | case3 => cases h <;> rw [Doc.rendering]
  case case8 left right l r ihl ihr =>
    cases h with
    | leaf hchildren => cases hchildren
    | cat hl hr => rw [rendering_cat, ihl hl, ihr hr]
  case case9 child ih =>
    cases h with
    | leaf hchildren => cases hchildren
    | nest h =>
      rw [Doc.rendering]
      exact ih h
  case case10 child ih =>
    cases h with
    | leaf hchildren => cases hchildren
    | hang h =>
      rw [Doc.rendering]
      exact ih h
  case case11 child ih =>
    cases h with
    | leaf hchildren => cases hchildren
    | align hinj h =>
      rw [Doc.rendering]
      exact ih (h.scopeContent hinj o.align)
  case case12 flat broken hfits ih =>
    cases h with
    | leaf hchildren => cases hchildren
    | union hf _ =>
      rw [Doc.rendering, hf.fits_eq, if_pos hfits]
      exact ih hf
  case case13 flat broken hfits ih =>
    cases h with
    | leaf hchildren => cases hchildren
    | union hf hb =>
      rw [Doc.rendering, hf.fits_eq, if_neg hfits]
      exact ih hb

end Relabelled

/-- *Levels are only names.* A document is laid out to the same text if other levels are given to
its texts, within each scope by a renaming of that scope that keeps its columns apart, and outside
of all scopes in any way. -/
theorem print_relabelled {d d' : Doc} (h : Relabelled (fun _ _ => True) d d') (o : Options) :
    d'.print o = d.print o := by
  rw [print_eq_rendering, print_eq_rendering, h.rendering]

/-- The columns of a scope change places, while those of a scope within it, which have had the same
names, get others; and names that are outside of both become one. -/
theorem print_relabelled_nested :
    let ports (inner : Nat) := Doc.align (concatAll [.text "x" (some inner), .text ":" none,
      .hardLine, .text "long" (some inner), .text ":" none])
    let table (name mode inner : Nat) := Doc.align (concatAll [.text "id" (some name),
      .text " " none, .keyword "inout" (some mode), .text ";" none, .hardLine,
      .text "data" (some name), .text " " none, .keyword "out" (some mode), .text ";" none,
      .hardLine, ports inner])
    let d := concatAll [.text "a" (some 3), .keyword "b" (some 4), .hardLine, table 0 1 0]
    let d' := concatAll [.text "a" (some 7), .keyword "b" (some 7), .hardLine, table 1 0 5]
    Relabelled (fun _ _ => True) d d' ∧ d'.print {} = d.print {} ∧
      d.print {} = "ab\nid   inout;\ndata out  ;\nx   :\nlong:" := by
  intro ports table d d'
  have plain {own : Nat → Nat → Prop} (content : String) :
      Relabelled own (.text content none) (.text content none) := .leaf rfl rfl
  have line {own : Nat → Nat → Prop} : Relabelled own .hardLine .hardLine := .leaf rfl rfl
  have hports {own : Nat → Nat → Prop} : Relabelled own (ports 0) (ports 5) :=
    .align (add_left_injective 5).injOn <| .concatAll <| .cons (.text _ rfl) <|
      .cons (plain _) <| .cons line <| .cons (.text _ rfl) <| .cons (plain _) .nil
  have htable {own : Nat → Nat → Prop} : Relabelled own (table 0 1 0) (table 1 0 5) :=
    .align (Equiv.swap 0 1).injective.injOn <| .concatAll <| .cons (.text _ rfl) <|
      .cons (plain _) <| .cons (.keyword _ rfl) <| .cons (plain _) <| .cons line <|
      .cons (.text _ rfl) <| .cons (plain _) <| .cons (.keyword _ rfl) <| .cons (plain _) <|
      .cons line <| .cons hports .nil
  have h : Relabelled (fun _ _ => True) d d' :=
    .concatAll <| .cons (.text _ trivial) <| .cons (.keyword _ trivial) <| .cons line <|
      .cons htable .nil
  refine ⟨h, print_relabelled h {}, ?_⟩
  rw [print_eq_rendering]
  cbv

end VhdlLayout.Doc
