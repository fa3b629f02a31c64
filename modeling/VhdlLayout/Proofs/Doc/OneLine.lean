import Mathlib
import VhdlLayout.Proofs.Casing
import VhdlLayout.Proofs.Doc.Reading
import VhdlLayout.Proofs.Doc.Rendering

/-!
# Flat documents on the line

A union is laid out flat if its flat document fits the rest of the line
(`Doc.fits`). Fitting is a matter of the texts and of the spaces between them. It
does not count the spaces that scopes put behind texts of columns when their turn
comes; those depend on the widest text of each column, which may stand in another
document of a union than the one laid out.

`Doc.slack` counts these spaces. A flat document takes its width and its slack
(`Doc.rendering_flat`). So what is laid out flat because it fits has no line end in
it and exceeds the line by no more than the slack (`Work.reaches_of_fits`); it stays
on the line if columns are not aligned. If they are, it may exceed the line
(`Work.exists_beyond_lineWidth`).
-/

namespace VhdlLayout

namespace Doc

variable {o : Options} {a b d leaf : Doc} {n : Nat}

/-! ## Spaces behind columns -/

/-- How many spaces are put behind the texts of a scope on one line if its columns have the given
widths. Scopes within the scope have columns of their own. -/
def shortfall (ws : Widths) : Doc → Nat
  | .cat left right => left.shortfall ws + right.shortfall ws
  | .union flat _ => flat.shortfall ws
  | .nest child | .hang child => child.shortfall ws
  | .align _ => 0
  | d =>
    match d.cell? with
    | some (level, width) => lack ws level width
    | none => 0

/-- How many spaces all scopes put behind their texts on one line. -/
def slack : Doc → Nat
  | .cat left right => left.slack + right.slack
  | .union flat _ => flat.slack
  | .nest child | .hang child => child.slack
  | .align child => child.shortfall child.measure + child.slack
  | _ => 0

theorem flatWidth?_of_cell? {level width : Nat} (h : d.cell? = some (level, width)) :
    d.flatWidth? = some width := by
  cases d with
  | text content level | keyword content level => cases level <;> cases h; rfl
  | _ => cases h

theorem shortfall_of_cell? {ws : Widths} {level width : Nat} (h : d.cell? = some (level, width)) :
    d.shortfall ws = lack ws level width := by
  cases d with
  | text content level | keyword content level => cases level <;> cases h; rfl
  | _ => cases h

theorem flatWidth?_of_breaks (h : d.grain? = some .breaks) : d.flatWidth? = none := by
  rcases eq_of_breaks h with rfl | ⟨count, rfl⟩ <;> rfl

theorem slack_of_grain? {g : Grain} (h : d.grain? = some g) : d.slack = 0 := by
  cases d with
  | cat | nest | hang | union | align => cases h
  | _ => rfl

/-- Together, documents take as many columns on one line as each of them takes. -/
theorem isReading_flatWidth? : IsReading (fun x y => do return (← x) + (← y)) flatWidth? where
  assoc x y z := by cases x <;> cases y <;> cases z <;> simp [Nat.add_assoc]
  empty_op d := by cases h : d.flatWidth? <;> simp [flatWidth?, width]
  op_empty d := by cases h : d.flatWidth? <;> simp [flatWidth?, width]
  cat left right := rfl
  merge {a b leaf} h := by
    rcases eq_of_merge? h with ⟨s, t, rfl, rfl, rfl⟩ | ⟨s, t, rfl, rfl, rfl⟩ | ⟨ha, -, hleaf⟩
    · simp [flatWidth?, width]
    · simp [flatWidth?, width]
    · rw [flatWidth?_of_breaks ha, flatWidth?_of_breaks hleaf]
      rfl

/-- With its columns padded, a scope is wider by the spaces behind its texts. -/
theorem isPadded_flatWidth? (ws : Widths) :
    IsPadded ws (fun x y => do return (← x) + (← y)) flatWidth?
      fun d => d.flatWidth?.map (· + d.shortfall ws) where
  cat left right := by
    simp only [flatWidth?, shortfall]
    cases left.flatWidth? <;> cases right.flatWidth? <;> simp
    omega
  union hflat _ := hflat
  nest h := h
  hang h := h
  scope child := by simp [flatWidth?, shortfall]
  leaf {d} hchildren hcell := by
    have none : d.shortfall ws = 0 := by
      cases d with
      | cat | nest | hang | union | align => cases hchildren
      | text _ level | keyword _ level => cases level <;> first | rfl | cases hcell
      | _ => rfl
    simp [none]
  full {d level width} hcell hlack := by
    rw [flatWidth?_of_cell? hcell, shortfall_of_cell? hcell, hlack]
    rfl
  short {d level width} hcell hlack := by
    rw [flatWidth?_of_cell? hcell, shortfall_of_cell? hcell]
    simp [padding, flatWidth?, Doc.width]

theorem isReading_slack : IsReading (· + ·) slack where
  assoc := Nat.add_assoc
  empty_op d := Nat.zero_add _
  op_empty d := Nat.add_zero _
  cat left right := rfl
  merge {a b leaf} h := by
    obtain ⟨g, ha, hb, hleaf⟩ := grain?_of_merge? h
    rw [slack_of_grain? ha, slack_of_grain? hb, slack_of_grain? hleaf]

/-- Padding the columns of a scope changes nothing about the scopes within it. -/
theorem isPadded_slack (ws : Widths) : IsPadded ws (· + ·) slack slack where
  cat _ _ := rfl
  union hflat _ := hflat
  nest h := h
  hang h := h
  scope _ := rfl
  leaf _ _ := rfl
  full _ _ := rfl
  short _ _ := rfl

/-- The spaces that scopes are padded with on the line, if columns are aligned. -/
def spread (aligned : Bool) (d : Doc) : Nat := if aligned then d.slack else 0

theorem spread_cat (aligned : Bool) (a b : Doc) :
    (Doc.cat a b).spread aligned = a.spread aligned + b.spread aligned := by
  cases aligned <;> rfl

/-- A scope is laid out as wide as it is, and wider by the spaces behind its texts. -/
theorem exists_flatWidth?_scopeContent (aligned : Bool) (h : d.flatWidth? = some n) :
    ∃ m, (d.scopeContent aligned).flatWidth? = some m ∧
      m + (d.scopeContent aligned).spread aligned = n + (Doc.align d).spread aligned := by
  cases aligned with
  | false => exact ⟨n, h, rfl⟩
  | true =>
    refine ⟨n + d.shortfall d.measure, ?_, ?_⟩
    · rw [scopeContent, if_pos rfl,
        isReading_flatWidth?.resolved (isPadded_flatWidth? d.measure), h]
      rfl
    · rw [scopeContent, spread, if_pos rfl, if_pos rfl,
        isReading_slack.resolved (isPadded_slack d.measure), spread, if_pos rfl, slack,
        Nat.add_assoc]

/-! ## Layout -/

/-- A document that can stand on one line is laid out flat with its width and the spaces of its
scopes, and without a line end if its leaves hold none. -/
theorem rendering_flat (h : d.flatWidth? = some n) (indent column : Column) :
    (d.AllChars (· ≠ '\n') → '\n' ∉ (d.rendering o indent .flat column).1.toList) ∧
      (d.rendering o indent .flat column).1.length = n + d.spread o.align ∧
      (d.rendering o indent .flat column).2 =
        column + .ofNat (d.rendering o indent .flat column).1.length := by
  -- Once flat, the mode stays so: no turn of a flat document takes the other one of a union.
  generalize hmode : Mode.flat = mode
  revert n
  fun_induction Doc.rendering o indent mode column d <;> intro n h
  case case1 =>
    cases h
    simp [spread, slack, width]
  case case2 _ _ _ content level =>
    cases h
    refine ⟨fun hd hmem => hd _ hmem rfl, ?_, rfl⟩
    simp [spread, slack, width]
  case case3 _ _ _ content level =>
    cases h
    refine ⟨fun hd hmem => hd _ ((o.keywordCase.mem_apply_iff rfl content).1 hmem) rfl, ?_, rfl⟩
    simp [spread, slack, width, Casing.length_apply]
  case case4 =>
    cases h
    have hspace : " ".length = 1 := rfl
    simp [spread, slack, width, hspace]
  case case5 => cases hmode
  case case6 | case7 => cases h
  case case8 mode column left right l r ihl ihr =>
    obtain ⟨m, k, hm, hk, rfl⟩ := flatWidth?_cat_eq_some.1 h
    obtain ⟨hline, hlength, hcolumn⟩ := ihl hmode hm
    obtain ⟨hline', hlength', hcolumn'⟩ := ihr hmode hk
    simp only [String.toList_append, List.mem_append, String.length_append, not_or]
    refine ⟨fun hd => ⟨hline hd.1, hline' hd.2⟩, ?_, ?_⟩
    · rw [hlength, hlength', spread_cat]
      omega
    · calc r.2 = l.2 + .ofNat r.1.length := hcolumn'
        _ = column + .ofNat l.1.length + .ofNat r.1.length := by rw [← hcolumn]
        _ = column + .ofNat (l.1.length + r.1.length) := by rw [UInt64.ofNat_add, UInt64.add_assoc]
  case case9 _ _ _ child ih | case10 _ _ _ child ih => exact ih hmode h
  case case11 _ _ _ child ih =>
    obtain ⟨m, hm, hspread⟩ := exists_flatWidth?_scopeContent (d := child) o.align h
    obtain ⟨hline, hlength, hcolumn⟩ := ih hmode hm
    rw [hspread] at hlength
    exact ⟨fun hd => hline ((allChars_scopeContent (by decide) o.align child).2 hd), hlength,
      hcolumn⟩
  case case12 _ _ _ flat broken _ ih =>
    obtain ⟨hline, hrest⟩ := ih rfl h
    exact ⟨fun hd => hline hd.1, hrest⟩
  case case13 _ _ _ flat broken hfits ih => exact absurd (.inl hmode.symm) hfits

end Doc

/-! ## Runs -/

theorem Page.toNat_column_put_le (page : Page) (text : String) :
    (page.put text).column.toNat ≤ page.column.toNat + text.length := by
  rw [put, UInt64.toNat_add, UInt64.toNat_ofNat', Nat.add_mod_mod]
  exact Nat.mod_le _ _

variable {o : Options} {page : Page} {task : Task} {kind : Char → Prop}

/-- A turn brings no characters into the tasks but spaces. -/
theorem Task.allChars_turn (hspace : kind ' ') (h : task.doc.AllChars kind) :
    ∀ t ∈ (task.turn o page).2, t.doc.AllChars kind := by
  fun_cases turn o page task <;> simp_all [Doc.AllChars, Doc.allChars_scopeContent]

namespace Work

open StateTransition

/-- Nor does a run. -/
theorem allChars_of_reaches (hspace : kind ' ') {w w' : Work} (hrun : Reaches (next? o) w w')
    (h : ∀ t ∈ w.tasks, t.doc.AllChars kind) : ∀ t ∈ w'.tasks, t.doc.AllChars kind := by
  induction hrun with
  | refl => exact h
  | tail _ hstep ih =>
    obtain ⟨task, rest, htasks, rfl⟩ := exists_task_of_next? hstep
    rw [htasks] at ih
    obtain ⟨htask, hrest⟩ := List.forall_mem_cons.1 ih
    exact List.forall_mem_append.2 ⟨Task.allChars_turn hspace htask, hrest⟩

/-- *What is laid out flat because it fits stays on the line but for the spaces behind columns.* If
the run of a document comes to a union outside of everything flat, and its flat document fits the
rest of the line, then the turns put a text without line ends on the page that exceeds the room by
no more than the spaces that scopes are padded with. Unless the width of the line or the column
takes all 64 bits, this is to say that it exceeds the line by no more than these spaces. -/
theorem reaches_of_fits {d : Doc} (hd : d.AllChars (· ≠ '\n')) {indent : Column}
    {flat broken : Doc} {rest : List Task}
    (hrun : Reaches (next? o) (start d) ⟨page, ⟨indent, .broken, .union flat broken⟩ :: rest⟩)
    (hfits : flat.fits (page.remaining o)) :
    ∃ text : String,
      Reaches (next? o) ⟨page, ⟨indent, .broken, .union flat broken⟩ :: rest⟩
        ⟨page.put text, rest⟩ ∧
      '\n' ∉ text.toList ∧ text.length ≤ page.remaining o + flat.spread o.align ∧
      (o.lineWidth < 2 ^ 63 → page.column.toNat < 2 ^ 63 →
        (page.put text).column.toNat ≤ o.lineWidth + flat.spread o.align) := by
  have hchars : (Doc.union flat broken).AllChars (· ≠ '\n') :=
    allChars_of_reaches (by decide) hrun (by simpa [start] using hd) _ List.mem_cons_self
  obtain ⟨n, hn, hroom⟩ := Doc.fits_iff.1 hfits
  obtain ⟨hline, hlength, hcolumn⟩ :=
    Doc.rendering_flat (o := o) hn indent page.column
  refine ⟨(flat.rendering o indent .flat page.column).1, ?_, hline hchars.1, ?_,
    fun hwidth hpage => ?_⟩
  · have turns := reaches_append_rendering o page ⟨indent, .flat, flat⟩ rest
    refine reaches_of_turn ?_
    rw [Task.turn_union_flat (.inr hfits)]
    rwa [Page.append, Task.rendering, hcolumn] at turns
  · rw [hlength]
    omega
  · rw [Page.remaining, Options.room_of_lt hwidth hpage] at hroom
    refine (page.toNat_column_put_le _).trans ?_
    rw [hlength]
    omega

/-- A port behind a text, with its two columns aligned. -/
theorem reaches_of_fits_port :
    let flat :=
      Doc.align (Doc.concatAll [.text "a" (some 0), .text " : " none, .text "bit" (some 0)])
    let broken := Doc.concatAll [.text "a :" none, .hardLine, .text "bit" none]
    let d := Doc.cat (.text "port " none) (.union flat broken)
    let o : Options := { lineWidth := 12 }
    let page := Page.blank.put "port "
    d.AllChars (· ≠ '\n') ∧
      Reaches (next? o) (start d) ⟨page, [⟨0, .broken, .union flat broken⟩]⟩ ∧
      flat.fits (page.remaining o) ∧ o.lineWidth < 2 ^ 63 ∧ page.column.toNat < 2 ^ 63 ∧
      flat.spread o.align = 2 ∧
      ∃ text : String,
        Reaches (next? o) ⟨page, [⟨0, .broken, .union flat broken⟩]⟩ ⟨page.put text, []⟩ ∧
        '\n' ∉ text.toList ∧ text.length ≤ page.remaining o + 2 ∧
        (page.put text).column.toNat ≤ 12 + 2 := by
  intro flat broken d o page
  have hchars : d.AllChars (· ≠ '\n') := by decide
  have hrun : Reaches (next? o) (start d) ⟨page, [⟨0, .broken, .union flat broken⟩]⟩ :=
    .head rfl (.single rfl)
  have hfits : flat.fits (page.remaining o) := Doc.fits_iff.2 ⟨7, by decide, by decide⟩
  have hspread : flat.spread o.align = 2 := by cbv
  have hwidth : o.lineWidth < 2 ^ 63 := by decide
  have hpage : page.column.toNat < 2 ^ 63 := by decide
  obtain ⟨text, turns, hline, hroom, hcolumn⟩ := reaches_of_fits hchars hrun hfits
  rw [hspread] at hroom hcolumn
  exact ⟨hchars, hrun, hfits, hwidth, hpage, hspread, text, turns, hline, hroom,
    hcolumn hwidth hpage⟩

/-- The spaces behind columns do make a flat document exceed the line, by as many as they are: it
fits, yet what is laid out ends five columns behind the line. -/
theorem exists_beyond_lineWidth :
    let flat :=
      Doc.align (Doc.concatAll [.text "a" (some 0), .text " : " none, .text "vector" (some 0)])
    let d := Doc.union flat (Doc.concatAll [.text "a :" none, .hardLine, .text "vector" none])
    let o : Options := { lineWidth := 10 }
    d.AllChars (· ≠ '\n') ∧ flat.fits (Page.blank.remaining o) ∧ flat.spread o.align = 5 ∧
      Reaches (next? o) (start d) ⟨⟨"a      : vector", 15⟩, []⟩ := by
  intro flat d o
  refine ⟨by decide, Doc.fits_iff.2 ⟨10, by decide, by decide⟩, by cbv, ?_⟩
  have turns := reaches_append_rendering o .blank ⟨0, .broken, d⟩ []
  have laidOut : d.rendering o 0 .broken 0 = ("a      : vector", 15) := by cbv
  rwa [Task.rendering, Page.blank, laidOut, Page.append] at turns

end Work

end VhdlLayout
