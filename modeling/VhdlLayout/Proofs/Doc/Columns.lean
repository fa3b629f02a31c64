import Mathlib
import VhdlLayout.Proofs.Doc.Reading

/-!
# The widths of columns

Two passes go over a scope when its columns are made equally wide. The first one
measures the texts that belong to columns, the second one puts spaces behind those
that are too narrow. Both come to the same texts in the same order, the cells of the
scope (`Doc.cells`):

* `Doc.width?_measure`: what is measured is the greatest width in each column, and
  nothing for a column without texts;
* `Doc.cellsSeen_eq`: the texts that are looked at to be padded are those
  that have been measured. So each of them finds its column and is no wider than that.

The scope thus becomes the document in which every text is as wide as the widest one
of its column (`Doc.resolved_eq_paddedTo`), which measures the same. If there is no
narrower text at all it stays as it is (`Doc.Built.columns_exact`).
-/

namespace VhdlLayout

/-! ## Widening -/

namespace Widths

variable {ws : Widths} {level level' width : Nat}

/-- Every column is told once, by ascending level. -/
def IsAscending (ws : Widths) : Prop := ws.Pairwise (·.1 < ·.1)

/-- The widths after several texts, each given by its level and its width. -/
def widenAll (ws : Widths) (cells : List (Nat × Nat)) : Widths :=
  cells.foldl (fun ws c => ws.widen c.1 c.2) ws

theorem width?_cons (c : Nat × Nat) (ws : Widths) (level : Nat) :
    width? (c :: ws) level = if level = c.1 then some c.2 else ws.width? level := by
  rw [width?, width?, List.lookup_cons]
  by_cases h : level = c.1
  · rw [if_pos h, beq_iff_eq.2 h]
  · rw [if_neg h, beq_false_of_ne h]

theorem width?_eq_none (h : ∀ c ∈ ws, level < c.1) : ws.width? level = none := by
  induction ws with
  | nil => rfl
  | cons c ws ih =>
    rw [List.forall_mem_cons] at h
    rw [width?_cons, if_neg h.1.ne, ih h.2]

theorem forall_lt_widen (hl : level' < level) (h : ∀ c ∈ ws, level' < c.1) :
    ∀ c ∈ ws.widen level width, level' < c.1 := by
  fun_induction widen level width ws with
  | case1 => simpa using hl
  | case2 => exact List.forall_mem_cons.2 ⟨hl, h⟩
  | case3 => exact List.forall_mem_cons.2 (List.forall_mem_cons.1 h)
  | case4 l w ws _ _ ih =>
    rw [List.forall_mem_cons] at h ⊢
    exact ⟨h.1, ih h.2⟩

namespace IsAscending

theorem lt_of_lt {l w : Nat} (h : IsAscending ((l, w) :: ws)) (hl : level < l) :
    ∀ c ∈ (l, w) :: ws, level < c.1 :=
  List.forall_mem_cons.2 ⟨hl, fun c hc => hl.trans ((List.pairwise_cons.1 h).1 c hc)⟩

theorem widen (h : ws.IsAscending) (level width : Nat) : (ws.widen level width).IsAscending := by
  rw [IsAscending] at h ⊢
  fun_induction Widths.widen level width ws with
  | case1 => exact List.pairwise_singleton _ _
  | case2 l w ws hlt => exact List.pairwise_cons.2 ⟨lt_of_lt h hlt, h⟩
  | case3 => exact List.pairwise_cons.2 (List.pairwise_cons.1 h)
  | case4 l w ws hlt hne ih =>
    obtain ⟨hl, h⟩ := List.pairwise_cons.1 h
    exact List.pairwise_cons.2 ⟨forall_lt_widen (by omega) hl, ih h⟩

/-- A text widens its own column, which is there from then on, and no other. -/
theorem width?_widen (h : ws.IsAscending) (level width level' : Nat) :
    (ws.widen level width).width? level' =
      if level' = level then some (max ((ws.width? level).getD 0) width) else ws.width? level' := by
  fun_induction Widths.widen level width ws with
  | case1 =>
    rw [width?_cons]
    simp [width?]
  | case2 l w ws hlt =>
    rw [width?_cons, width?_eq_none (lt_of_lt h hlt), Option.getD_none, Nat.zero_max]
  | case3 =>
    rw [width?_cons, width?_cons, width?_cons, if_pos rfl]
    split <;> rfl
  | case4 l w ws hlt hne ih =>
    -- The column is further on. Only a look-up of the first one does not get that far.
    rw [width?_cons, ih (List.pairwise_cons.1 h).2, width?_cons, width?_cons, if_neg hne]
    by_cases hl : level' = l
    · subst hl
      rw [if_pos rfl, if_neg (Ne.symm hne), if_pos rfl]
    · rw [if_neg hl, if_neg hl]

theorem widenAll (h : ws.IsAscending) (cells : List (Nat × Nat)) :
    (ws.widenAll cells).IsAscending :=
  List.foldlRecOn cells _ h fun _ hws c _ => hws.widen c.1 c.2

/-- After several texts a column is as wide as the widest of its own and it has been. -/
theorem width?_widenAll (h : ws.IsAscending) (cells : List (Nat × Nat)) (level : Nat) :
    (ws.widenAll cells).width? level =
      ((ws.width? level).toList ++ (cells.filter (·.1 = level)).map Prod.snd).max? := by
  induction cells generalizing ws with
  | nil =>
    rw [Widths.widenAll, List.foldl_nil, List.filter_nil, List.map_nil, List.append_nil]
    cases ws.width? level <;> rfl
  | cons c cells ih =>
    change ((ws.widen c.1 c.2).widenAll cells).width? level = _
    rw [ih (h.widen c.1 c.2), h.width?_widen]
    -- The first text counts for its own column only.
    by_cases hc : c.1 = level
    · subst hc
      rw [if_pos rfl, List.filter_cons_of_pos (by simp), List.map_cons]
      cases ws.width? c.1 with
      | none => rw [Option.getD_none, Nat.zero_max]; rfl
      | some w => rfl
    · rw [if_neg (Ne.symm hc), List.filter_cons_of_neg (by simpa using hc)]

end IsAscending

end Widths

namespace Doc

variable {d : Doc} {level width : Nat}

/-! ## Cells -/

theorem cells_of_grain? {g : Grain} (h : d.grain? = some g) : d.cells = [] := by
  revert h
  fun_cases grain? d <;> intro h
  all_goals first | rfl | cases h

/-- Only texts that belong to no column are merged. -/
theorem isReading_cells : IsReading (· ++ ·) cells where
  assoc := List.append_assoc
  empty_op d := List.nil_append _
  op_empty d := List.append_nil _
  cat left right := rfl
  merge {a b leaf} h := by
    obtain ⟨g, ha, hb, hleaf⟩ := grain?_of_merge? h
    rw [cells_of_grain? ha, cells_of_grain? hb, cells_of_grain? hleaf]
    rfl

theorem cells_join {sep : Doc} (hsep : sep.cells = []) (ds : List Doc) :
    (Doc.join sep ds).cells = ds.flatMap cells := by
  cases ds with
  | nil => rfl
  | cons d ds =>
    rw [isReading_cells.join, hsep]
    simp only [List.append_nil]
    rw [List.foldl_append_eq_append, List.flatMap_cons, List.flatMap_def]

/-- Padding belongs to no column. -/
theorem isPadded_cells (ws : Widths) : IsPadded ws (· ++ ·) cells cells where
  cat left right := rfl
  union ha hb := by rw [cells, ha, hb, cells]
  nest h := h
  hang h := h
  scope child := rfl
  leaf _ _ := rfl
  full _ _ := rfl
  short _ _ := List.append_nil _

theorem cells_resolved (d : Doc) : d.resolved.cells = d.cells :=
  isReading_cells.resolved (isPadded_cells d.measure)

/-- The widths of the texts of a column. -/
def column (d : Doc) (level : Nat) : List Nat := (d.cells.filter (·.1 = level)).map Prod.snd

/-- The width of the widest text of a column. -/
def columnWidth (d : Doc) (level : Nat) : Nat := (d.column level).max?.getD 0

theorem mem_column : width ∈ d.column level ↔ (level, width) ∈ d.cells := by
  simp [column]

theorem max?_column : (d.column level).max? = some width ↔
    IsGreatest {w | (level, w) ∈ d.cells} width := by
  simp only [List.max?_eq_some_iff, mem_column]
  rfl

theorem isGreatest_columnWidth (h : (level, width) ∈ d.cells) :
    IsGreatest {w | (level, w) ∈ d.cells} (d.columnWidth level) := by
  obtain ⟨widest, hwidest⟩ := Option.isSome_iff_exists.1 (List.isSome_max?_of_mem (mem_column.2 h))
  rw [columnWidth, hwidest]
  exact max?_column.1 hwidest

/-! ## Measuring -/

theorem widths_eq_widenAll (d : Doc) (ws : Widths) : d.widths ws = ws.widenAll d.cells := by
  induction d generalizing ws with
  | cat left right ihl ihr | union left right ihl ihr =>
    rw [widths, ihl, ihr, cells, Widths.widenAll, Widths.widenAll, Widths.widenAll,
      List.foldl_append]
  | nest child ih | hang child ih => exact ih ws
  | text _ level | keyword _ level => cases level <;> rfl
  | _ => rfl

/-- To measure a scope is to widen its columns by its cells, one after the other. -/
theorem measure_eq_widenAll (d : Doc) : d.measure = Widths.widenAll [] d.cells := by
  rw [measure_eq_widths, widths_eq_widenAll]

theorem isAscending_measure (d : Doc) : d.measure.IsAscending := by
  rw [measure_eq_widenAll]
  exact Widths.IsAscending.widenAll List.Pairwise.nil _

/-- A column is measured as its greatest width, if it has any. -/
theorem width?_measure (d : Doc) (level : Nat) :
    d.measure.width? level = (d.column level).max? := by
  rw [measure_eq_widenAll]
  exact Widths.IsAscending.width?_widenAll List.Pairwise.nil _ level

theorem lack_measure (d : Doc) (level width : Nat) :
    lack d.measure level width = d.columnWidth level - width := by
  rw [lack, width?_measure, columnWidth]

/-! ## Padding -/

/-- The cells that the pass which pads looks at, one after the other, if the columns are to have the
given widths. -/
def cellsSeen (ws : Widths) (d : Doc) : List (Nat × Nat) :=
  (rewrite (fun seen e => (seen ++ e.cell?.toList, pad ws e)) [] d).1

theorem rewriteTree_cellsSeen (ws : Widths) (d : Doc) (seen : List (Nat × Nat)) :
    (rewriteTree (fun seen e => (seen ++ e.cell?.toList, pad ws e)) d seen).1 =
      seen ++ d.cells := by
  induction d generalizing seen with
  | cat left right ihl ihr | union left right ihl ihr =>
    change (rewriteTree _ right (rewriteTree _ left (seen ++ [])).1).1 = _
    rw [ihr, ihl, List.append_nil, List.append_assoc, cells]
  | nest child ih | hang child ih =>
    change (rewriteTree _ child (seen ++ [])).1 = _
    rw [ih, List.append_nil, cells]
  | text content level | keyword content level =>
    -- Whether the text is padded or not, it is looked at once.
    rw [rewriteTree]
    split <;> rename_i h <;> exact (congrArg Prod.fst h).symm
  | _ => rfl

/-- The texts that are looked at to be padded are those that have been measured. -/
theorem cellsSeen_eq (ws : Widths) (d : Doc) : d.cellsSeen ws = d.cells := by
  rw [cellsSeen, rewrite_eq_rewriteTree]
  exact rewriteTree_cellsSeen ws d []

/-- The document with the texts of each column padded to its greatest width, but for the scopes
within. -/
def paddedTo (widest : Nat → Nat) : Doc → Doc
  | .cat left right => concat (left.paddedTo widest) (right.paddedTo widest)
  | .union flat broken => .union (flat.paddedTo widest) (broken.paddedTo widest)
  | .nest child => .nest (child.paddedTo widest)
  | .hang child => .hang (child.paddedTo widest)
  | .align child => .align child
  | d =>
    match d.cell? with
    | some (level, width) =>
      if width < widest level then concat d (padding (widest level - width)) else d
    | none => d

theorem padded_eq_paddedTo (ws : Widths) (d : Doc) :
    d.padded ws = d.paddedTo fun level => (ws.width? level).getD 0 := by
  induction d with
  | cat left right ihl ihr | union left right ihl ihr => rw [padded, ihl, ihr, paddedTo]
  | nest child ih | hang child ih => rw [padded, ih, paddedTo]
  | text content level | keyword content level =>
    cases level with
    | none => rfl
    | some level =>
      simp only [padded, paddedTo, cell?, lack, Nat.sub_eq_zero_iff_le]
      split <;> split <;> first | rfl | omega
  | _ => rfl

theorem paddedTo_of_grain? {g : Grain} (h : d.grain? = some g) (widest : Nat → Nat) :
    d.paddedTo widest = d := by
  revert h
  fun_cases grain? d <;> intro h
  all_goals first | rfl | cases h

/-- A document whose texts have been padded is read leaf by leaf. -/
theorem IsReading.paddedTo {M : Type*} {op : M → M → M} {reading : Doc → M}
    (h : IsReading op reading) (widest : Nat → Nat) :
    IsReading op fun d => reading (d.paddedTo widest) where
  assoc := h.assoc
  empty_op d := h.empty_op _
  op_empty d := h.op_empty _
  cat left right := h.concat _ _
  merge {a b leaf} hleaf := by
    -- Only leaves without a column are merged, and these are not padded.
    obtain ⟨g, ha, hb, hg⟩ := grain?_of_merge? hleaf
    rw [paddedTo_of_grain? ha, paddedTo_of_grain? hb, paddedTo_of_grain? hg, h.merge hleaf]

/-- A scope becomes the document in which each text is as wide as the widest of its column. -/
theorem resolved_eq_paddedTo (h : d.IsNormal) : d.resolved = d.paddedTo d.columnWidth := by
  rw [resolved_eq_padded h, padded_eq_paddedTo]
  congr 1
  funext level
  rw [width?_measure, columnWidth]

/-- A scope stays as it is if, and only if, it has no text that is narrower than its column. -/
theorem resolve_eq_none_iff (d : Doc) :
    d.resolve = none ↔ ∀ c ∈ d.cells, d.columnWidth c.1 ≤ c.2 := by
  rw [resolve_eq_rewriteTree, rewriteTree_pad_eq_none_iff]
  refine forall₂_congr fun c hc => ?_
  rw [lack_measure, Nat.sub_eq_zero_iff_le]

theorem measure_resolved (d : Doc) : d.resolved.measure = d.measure := by
  rw [measure_eq_widenAll, cells_resolved, measure_eq_widenAll]

/-- *Columns are made as wide as their widest texts, neither more nor less.* A built document
measures the greatest width of every column that has texts in it, and no others. When it is
resolved, exactly the texts that have been measured are looked at; each finds its column measured,
at no less than its own width. The document becomes that in which spaces are put behind every text
that is narrower than the widest of its column, as many as it lacks, and which measures the same;
it stays the very same document exactly if there is no such text. -/
theorem Built.columns_exact (h : Built d) :
    (∀ level width, d.measure.width? level = some width ↔
      IsGreatest {w | (level, w) ∈ d.cells} width) ∧
    d.measure.IsAscending ∧
    d.cellsSeen d.measure = d.cells ∧
    (∀ c ∈ d.cellsSeen d.measure,
      ∃ widest, d.measure.width? c.1 = some widest ∧ c.2 ≤ widest) ∧
    (∀ c ∈ d.cells, IsGreatest {w | (c.1, w) ∈ d.cells} (d.columnWidth c.1)) ∧
    d.resolved = d.paddedTo d.columnWidth ∧
    d.resolved.measure = d.measure ∧
    (d.resolve = none ↔ ∀ c ∈ d.cells, d.columnWidth c.1 ≤ c.2) := by
  have measured (level width : Nat) : d.measure.width? level = some width ↔
      IsGreatest {w | (level, w) ∈ d.cells} width := by
    rw [width?_measure, max?_column]
  have widest {c : Nat × Nat} (hc : c ∈ d.cells) := isGreatest_columnWidth hc
  refine ⟨measured, d.isAscending_measure, d.cellsSeen_eq _, fun c hc => ?_, fun c => widest,
    resolved_eq_paddedTo h.isNormal, d.measure_resolved, d.resolve_eq_none_iff⟩
  rw [cellsSeen_eq] at hc
  exact ⟨d.columnWidth c.1, (measured _ _).2 (widest hc), (widest hc).2 hc⟩

/-- The widest name stands in the broken document of a union, and the longest one in a scope of its
own. -/
theorem columns_exact_union :
    let names := Doc.union (.text "a" (some 0)) (.keyword "reset" (some 0))
    let d := concatAll [.text "clk" (some 0), .text ": bit" none, .hardLine, names,
      .align (.text "standard_logic" (some 0))]
    Built d ∧ d.cells = [(0, 3), (0, 1), (0, 5)] ∧ IsGreatest {w | (0, w) ∈ d.cells} 5 ∧
      d.resolved = concatAll [.text "clk" (some 0), .text "  : bit" none, .hardLine,
        .union (concat (.text "a" (some 0)) (.text "    " none)) (.keyword "reset" (some 0)),
        .align (.text "standard_logic" (some 0))] ∧
      d.resolve ≠ none := by
  intro names d
  have built : Built d := by
    refine .concatAll fun e he => ?_
    fin_cases he
    · exact .alignText _ _
    · exact .text _
    · exact .hardLine
    · exact .union (.alignText _ _) (.alignKeyword _ _)
    · exact .align (.alignText _ _)
  have cells : d.cells = [(0, 3), (0, 1), (0, 5)] := by cbv
  have widest : d.columnWidth 0 = 5 := by cbv
  obtain ⟨measured, -, -, -, -, resolved, -, same⟩ := built.columns_exact
  refine ⟨built, cells, (measured 0 5).1 (by cbv), ?_, fun h => ?_⟩
  · rw [resolved]
    cbv
  · have narrow : d.columnWidth 0 ≤ 3 := same.1 h (0, 3) (by simp [cells])
    omega

end Doc

end VhdlLayout
