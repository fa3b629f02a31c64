import Mathlib
import VhdlLayout.Proofs.Casing
import VhdlLayout.Proofs.Doc.OneLine

/-!
# The column of a page

While a document is laid out, the column is kept beside the text. It is moved on
with every text that is put on the page and set anew with every new line, and never
counted again. Yet in the whole course of a layout it is the place at which the text
ends (`Work.column_of_reaches`), unless 64 bits are too few for that place: what the
characters behind the last line feed take, of which each takes a column, and a tab as
many as a unit of indentation where lines are indented by tabs (`Options.position`).

What a union is measured against is what the line has left, as long as its width and
the column take less than 64 bits. Otherwise what should be broken may be laid out
flat (`Work.exists_flat_without_room`).

That is so if no leaf holds a line feed, nor a tab that would be taken for
indentation. The invariant is one of the page (`Page.IsPlaced`) and of the leaves that
are still to come: every turn keeps the first if the second holds
(`Task.isPlaced_turn`), and no turn brings any characters but spaces
(`Work.allChars_of_reaches`).
-/

namespace VhdlLayout

/-! ## The last line -/

/-- The characters behind the last line feed, or all if there is none. -/
def lastLine (text : String) : List Char := text.toList.rtakeWhile (· != '\n')

section LastLine

variable {s t : String}

/-- What holds no line feed lengthens the last line. -/
theorem lastLine_append (h : '\n' ∉ t.toList) : lastLine (s ++ t) = lastLine s ++ t.toList := by
  have hline : ∀ c ∈ t.toList.reverse, (c != '\n') = true := fun c hc =>
    bne_iff_ne.2 fun heq => h (heq ▸ List.mem_reverse.1 hc)
  rw [lastLine, lastLine, String.toList_append, List.rtakeWhile, List.rtakeWhile,
    List.reverse_append, List.takeWhile_append_of_pos hline, List.reverse_append,
    List.reverse_reverse]

/-- Behind a line feed a new line begins. -/
theorem lastLine_append_lineEnding (ending : LineEnding) :
    lastLine (s ++ ending.text) = [] := by
  obtain ⟨before, hbefore⟩ : ∃ before, (s ++ ending.text).toList = before ++ ['\n'] := by
    rw [String.toList_append]
    cases ending with
    | lf => exact ⟨s.toList, rfl⟩
    | crlf => exact ⟨s.toList ++ ['\r'], by rw [List.append_assoc]; rfl⟩
  rw [lastLine, hbefore]
  exact List.rtakeWhile_concat_neg _ _ _ (by decide)

end LastLine

/-! ## Columns -/

namespace Options

variable {o : Options} {s t : String}

/-- How many columns the character takes. -/
def columns (o : Options) (c : Char) : Nat :=
  if o.indentStyle = .tabs ∧ c = '\t' then max o.indentSize 1 else 1

/-- The column behind a text: how many columns the characters of its last line take. -/
def position (o : Options) (text : String) : Nat := ((lastLine text).map o.columns).sum

/-- The character stays on its line and is no tab that indents. -/
def TakesOneColumn (o : Options) (c : Char) : Prop :=
  c ≠ '\n' ∧ (o.indentStyle = .tabs → c ≠ '\t')

instance (o : Options) (c : Char) : Decidable (o.TakesOneColumn c) :=
  inferInstanceAs (Decidable (_ ∧ (_ → _)))

theorem takesOneColumn_space (o : Options) : o.TakesOneColumn ' ' := ⟨by decide, fun _ => by decide⟩

theorem columns_eq_one {c : Char} (h : o.TakesOneColumn c) : o.columns c = 1 :=
  if_neg fun htab => h.2 htab.1 htab.2

theorem sum_columns {cs : List Char} (h : ∀ c ∈ cs, o.TakesOneColumn c) :
    (cs.map o.columns).sum = cs.length := by
  rw [List.map_congr_left fun c hc => columns_eq_one (h c hc), List.map_const', List.sum_replicate,
    smul_eq_mul, mul_one]

/-- A text moves the column on by its characters. -/
theorem position_append (h : ∀ c ∈ t.toList, o.TakesOneColumn c) :
    o.position (s ++ t) = o.position s + t.length := by
  rw [position, position, lastLine_append fun hline => (h _ hline).1 rfl, List.map_append,
    List.sum_append, sum_columns h, String.length_toList]

/-- Indentation takes the columns that it is for: the tabs all full units, and the spaces the
rest. -/
theorem sum_columns_indentation (o : Options) (indent : Nat) :
    ((o.indentation indent).toList.map o.columns).sum = indent := by
  have hspace : o.columns ' ' = 1 := columns_eq_one o.takesOneColumn_space
  rw [indentation]
  cases hstyle : o.indentStyle with
  | spaces => simp [hspace]
  | tabs =>
    have htab : o.columns '\t' = o.tabWidth := if_pos ⟨hstyle, rfl⟩
    simp [hspace, htab, Nat.div_add_mod']

/-- A new line begins at the column of its indentation. -/
theorem position_lineBreak (o : Options) (s : String) (indent : Nat) :
    o.position (s ++ o.lineEnding.text ++ o.indentation indent) = indent := by
  have hline : '\n' ∉ (o.indentation indent).toList := fun h => by
    rcases o.eq_of_mem_indentation h with h | h <;> cases h
  rw [position, lastLine_append hline, lastLine_append_lineEnding, List.nil_append,
    sum_columns_indentation]

end Options

/-! ## Pages -/

variable {o : Options} {page : Page}

namespace Page

/-- The column of the page is the one behind its text, as far as 64 bits tell it. -/
def IsPlaced (o : Options) (page : Page) : Prop := page.column = .ofNat (o.position page.text)

theorem isPlaced_blank (o : Options) : blank.IsPlaced o := rfl

theorem IsPlaced.put (h : page.IsPlaced o) {text : String}
    (htext : ∀ c ∈ text.toList, o.TakesOneColumn c) : (page.put text).IsPlaced o := by
  rw [IsPlaced, Page.put, Options.position_append htext, UInt64.ofNat_add, ← h]

theorem isPlaced_newLine (o : Options) (page : Page) (indent : Column) :
    (page.newLine o indent).IsPlaced o := by
  rw [IsPlaced, Page.newLine, o.position_lineBreak, UInt64.ofNat_toNat]

theorem IsPlaced.newLines (h : page.IsPlaced o) (indent : Column) (count : Nat) :
    (page.newLines o indent count).IsPlaced o := by
  induction count generalizing page with
  | zero => exact h
  | succ count ih => exact ih (isPlaced_newLine o page indent)

end Page

/-! ## Turns -/

theorem Casing.takesOneColumn_apply (casing : Casing) {text : String}
    (h : ∀ c ∈ text.toList, o.TakesOneColumn c) :
    ∀ c ∈ (casing.apply text).toList, o.TakesOneColumn c := by
  intro c hc
  refine ⟨?_, fun htabs => ?_⟩
  · rintro rfl
    exact (h _ ((casing.mem_apply_iff rfl text).1 hc)).1 rfl
  · rintro rfl
    exact (h _ ((casing.mem_apply_iff rfl text).1 hc)).2 htabs rfl

/-- Each turn leaves the column behind the text if the leaf that it lays out has no line feed and no
tab that indents. -/
theorem Task.isPlaced_turn {task : Task} (h : task.doc.AllChars o.TakesOneColumn)
    (hpage : page.IsPlaced o) : (task.turn o page).1.IsPlaced o := by
  fun_cases turn o page task with
  | case1 | case8 | case9 | case10 | case11 | case12 | case13 => exact hpage
  | case2 content level hdoc =>
    rw [hdoc] at h
    exact hpage.put h
  | case3 content level hdoc =>
    rw [hdoc] at h
    exact hpage.put (o.keywordCase.takesOneColumn_apply h)
  | case4 => exact hpage.put (by simpa using o.takesOneColumn_space)
  | case5 | case6 => exact Page.isPlaced_newLine o page _
  | case7 count => exact hpage.newLines _ count

namespace Work

open StateTransition

variable {d : Doc} {w : Work}

/-- In the whole course of a layout the column of the page is the one behind its text. -/
theorem isPlaced_of_reaches (hd : d.AllChars o.TakesOneColumn)
    (hrun : Reaches (next? o) (start d) w) : w.page.IsPlaced o := by
  induction hrun with
  | refl => exact Page.isPlaced_blank o
  | @tail v w hrun hstep ih =>
    have hchars := allChars_of_reaches o.takesOneColumn_space hrun (by simpa [start] using hd)
    obtain ⟨task, rest, htasks, rfl⟩ := exists_task_of_next? hstep
    exact Task.isPlaced_turn (hchars task (htasks ▸ List.mem_cons_self)) ih

/-- *The column is where the text ends.* If no leaf holds a line feed, nor a tab where lines are
indented by tabs, then at every step of the layout the column is the one behind the text on the
page, as far as 64 bits tell it. So what hangs is indented to the very place where it begins, and
the flat document of a union is laid out just if it fits what the text has left of the line; which
is the difference of the width and that place, unless one of them takes all 64 bits. -/
theorem column_of_reaches (hd : d.AllChars o.TakesOneColumn)
    (hrun : Reaches (next? o) (start d) w) :
    w.page.column = .ofNat (o.position w.page.text) ∧
    (o.position w.page.text < 2 ^ 64 → w.page.column.toNat = o.position w.page.text) ∧
    w.page.remaining o = ((o.lineWidth : Int) - o.position w.page.text).bmod (2 ^ 64) ∧
    (o.lineWidth < 2 ^ 63 → o.position w.page.text < 2 ^ 63 →
      w.page.remaining o = o.lineWidth - o.position w.page.text) ∧
    (∀ indent mode child rest, w.tasks = ⟨indent, mode, .hang child⟩ :: rest →
      w.next? o = some ⟨w.page, ⟨.ofNat (o.position w.page.text), mode, child⟩ :: rest⟩) ∧
    ∀ indent flat broken rest, w.tasks = ⟨indent, .broken, .union flat broken⟩ :: rest →
      w.next? o = some ⟨w.page,
        (if flat.fits (w.page.remaining o) then ⟨indent, .flat, flat⟩
          else ⟨indent, .broken, broken⟩) :: rest⟩ := by
  have hplaced : w.page.column = .ofNat (o.position w.page.text) := isPlaced_of_reaches hd hrun
  have hexact : o.position w.page.text < 2 ^ 64 →
      w.page.column.toNat = o.position w.page.text := fun h => by
    rw [hplaced, UInt64.toNat_ofNat', Nat.mod_eq_of_lt h]
  obtain ⟨page, tasks⟩ := w
  refine ⟨hplaced, hexact, ?_, fun hwidth hposition => ?_, ?_, ?_⟩
  · rw [Page.remaining, Options.room_eq, hplaced, UInt64.toNat_ofNat', Int.natCast_emod]
    exact Int.sub_emod_bmod _ _
  · have hcolumn := hexact (hposition.trans (by decide))
    rw [Page.remaining, Options.room_of_lt hwidth (hcolumn ▸ hposition), hcolumn]
  · rintro indent mode child rest rfl
    rw [next?_cons, Task.turn, ← hplaced]
    rfl
  · rintro indent flat broken rest rfl
    rw [next?_cons]
    split
    · next hfits =>
      rw [Task.turn_union_flat (.inr hfits)]
      rfl
    · next hfits =>
      rw [Task.turn_union_broken (by rintro (h | h); cases h; exact hfits h)]
      rfl

/-- Behind a line end of two characters, a tab, letters of two bytes and a reserved word in the
other case, a union hangs that just fits the line. -/
theorem column_of_reaches_hang :
    let flat := Doc.text "a, b" none
    let choice := Doc.union flat (Doc.concatAll [.text "a," none, .hardLine, .text "b" none])
    let d := Doc.nest (Doc.concatAll
      [.hardLine, .text "größe " none, .keyword "is " none, .hang choice])
    let o : Options :=
      { lineWidth := 17, indentSize := 4, indentStyle := .tabs, lineEnding := .crlf
        keywordCase := .upper }
    let page : Page := ⟨"\r\n\tgröße IS ", 13⟩
    (d.AllChars o.TakesOneColumn ∧
      Reaches (next? o) (start d) ⟨page, [⟨4, .broken, .hang choice⟩]⟩) ∧
    o.position page.text < 2 ^ 63 ∧ o.lineWidth < 2 ^ 63 ∧
    page.column.toNat = o.position page.text ∧ page.remaining o = 17 - o.position page.text ∧
    next? o ⟨page, [⟨4, .broken, .hang choice⟩]⟩ = some ⟨page, [⟨13, .broken, choice⟩]⟩ ∧
    next? o ⟨page, [⟨13, .broken, choice⟩]⟩ = some ⟨page, [⟨13, .flat, flat⟩]⟩ := by
  intro flat choice d o page
  have hchars : d.AllChars o.TakesOneColumn := by decide +kernel
  have hrun : Reaches (next? o) (start d) ⟨page, [⟨4, .broken, .hang choice⟩]⟩ := by
    refine .head rfl (.head rfl (.head rfl (.head rfl (.head rfl (.head rfl (.single ?_))))))
    decide +kernel
  have hposition : o.position page.text = 13 := by decide +kernel
  obtain ⟨-, hcolumn, -, hroom, hhang, -⟩ := column_of_reaches hchars hrun
  have hcolumn := hcolumn (hposition ▸ by decide)
  have hroom := hroom (by decide) (hposition ▸ by decide)
  have hstep := hhang 4 .broken choice [] rfl
  rw [hposition] at hstep
  obtain ⟨-, -, -, -, -, hunion⟩ := column_of_reaches hchars (hrun.tail hstep)
  have hfits : flat.fits (page.remaining o) = true := by
    rw [hroom, hposition]
    exact Doc.fits_iff.2 ⟨4, rfl, by decide⟩
  have hlast := hunion 13 flat _ [] rfl
  rw [if_pos hfits] at hlast
  exact ⟨⟨hchars, hrun⟩, hposition ▸ by decide, by decide, hcolumn, hroom, hstep, hlast⟩

/-- Behind three tabs of a width that takes 62 bits there is no room on the line. Yet the difference
of its width and the column is taken for a large number, and what should be broken is laid out
flat. -/
theorem exists_flat_without_room :
    let flat := Doc.text "a" none
    let choice := Doc.union flat (.text "b" none)
    let d := Doc.nest (.nest (.nest (.cat .hardLine choice)))
    let o : Options := { lineWidth := 80, indentSize := 2 ^ 62, indentStyle := .tabs }
    let page : Page := ⟨"\n\t\t\t", 3 * 2 ^ 62⟩
    (d.AllChars o.TakesOneColumn ∧
      Reaches (next? o) (start d) ⟨page, [⟨3 * 2 ^ 62, .broken, choice⟩]⟩) ∧
    o.position page.text = 3 * 2 ^ 62 ∧
    flat.fits ((o.lineWidth : Int) - o.position page.text) = false ∧
    next? o ⟨page, [⟨3 * 2 ^ 62, .broken, choice⟩]⟩ =
      some ⟨page, [⟨3 * 2 ^ 62, .flat, flat⟩]⟩ := by
  intro flat choice d o page
  have hchars : d.AllChars o.TakesOneColumn := by decide +kernel
  have hrun : Reaches (next? o) (start d) ⟨page, [⟨3 * 2 ^ 62, .broken, choice⟩]⟩ := by
    refine .head rfl (.head rfl (.head rfl (.head rfl (.single ?_))))
    decide +kernel
  have hposition : o.position page.text = 3 * 2 ^ 62 := by decide +kernel
  have hnone : ¬flat.fits ((o.lineWidth : Int) - o.position page.text) = true := by
    rw [hposition, Doc.fits_iff]
    rintro ⟨n, hn, hroom⟩
    cases hn
    revert hroom
    decide
  have hfits : flat.fits (page.remaining o) = true := Doc.fits_iff.2 ⟨1, rfl, by decide +kernel⟩
  refine ⟨⟨hchars, hrun⟩, hposition, Bool.eq_false_iff.2 hnone, ?_⟩
  rw [next?_cons, Task.turn_union_flat (.inr hfits)]
  rfl

end Work

end VhdlLayout
