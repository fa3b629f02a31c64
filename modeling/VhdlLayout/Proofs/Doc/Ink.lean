import Mathlib
import VhdlLayout.Proofs.Casing
import VhdlLayout.Proofs.Doc.Reading
import VhdlLayout.Proofs.Doc.Rendering

/-!
# Ink

The ink of a text are its characters but for spaces, tabs and those that end lines
(`ink`). That of a document (`Doc.ink`) is the ink of its leaves, one behind the
other, with its unions read as their flat documents. Layout has no part in it: if
both documents of every union have the same ink (`Doc.SameInk`), the document is
laid out in this ink whatever the options, but for the case of reserved words
(`Doc.ink_print`).

Which of the two documents a union is laid out as does not matter then, nor do the
spaces that columns are padded with. Padding merges leaves; but ink is read off
leaf by leaf (`Doc.isReading_ink`).
-/

namespace VhdlLayout

/-- The character leaves ink: it is no space and no tab and has no part in ending a line. -/
def isInk (c : Char) : Bool := c != ' ' && c != '\t' && c != '\r' && c != '\n'

/-- The characters of a text that leave ink. -/
def ink (text : String) : List Char := text.toList.filter isInk

theorem ink_append (s t : String) : ink (s ++ t) = ink s ++ ink t := by
  rw [ink, String.toList_append, List.filter_append]
  rfl

theorem ink_eq_nil {text : String} (h : ∀ c ∈ text.toList, isInk c = false) : ink text = [] :=
  List.filter_eq_nil_iff.2 fun c hc => Bool.eq_false_iff.1 (h c hc)

theorem ink_join_replicate {text : String} (h : ink text = []) (count : Nat) :
    ink (String.join (List.replicate count text)) = [] := by
  induction count with
  | zero => rfl
  | succ count ih => rw [List.replicate_succ, String.join_cons, ink_append, h, ih, List.nil_append]

/-- Indentation leaves no ink. -/
theorem Options.ink_indentation (o : Options) (columns : Nat) :
    ink (o.indentation columns) = [] := by
  refine ink_eq_nil fun c hc => ?_
  rcases o.eq_of_mem_indentation hc with rfl | rfl <;> rfl

theorem Options.ink_lineBreak (o : Options) (indent : Column) : ink (o.lineBreak indent) = [] := by
  rw [lineBreak, ink_append, o.ink_indentation, List.append_nil]
  cases o.lineEnding <;> rfl

namespace Doc

/-- The ink of the leaves, those of unions in their flat documents, with reserved words in the given
case. -/
def ink (casing : Casing) : Doc → List Char
  | .text content _ => VhdlLayout.ink content
  | .keyword content _ => VhdlLayout.ink (casing.apply content)
  | .cat left right => left.ink casing ++ right.ink casing
  | .union flat _ => flat.ink casing
  | .nest child | .hang child | .align child => child.ink casing
  | _ => []

/-- Both documents of every union have the same ink. -/
def SameInk (casing : Casing) : Doc → Prop
  | .cat left right => left.SameInk casing ∧ right.SameInk casing
  | .union flat broken =>
    flat.SameInk casing ∧ broken.SameInk casing ∧ flat.ink casing = broken.ink casing
  | .nest child | .hang child | .align child => child.SameInk casing
  | _ => True

variable {casing : Casing} {a b d leaf : Doc}

/-! ## Scopes -/

theorem ink_of_breaks (h : d.grain? = some .breaks) : d.ink casing = [] := by
  rcases eq_of_breaks h with rfl | ⟨count, rfl⟩ <;> rfl

theorem sameInk_of_grain? {g : Grain} (h : d.grain? = some g) : d.SameInk casing := by
  cases d with
  | cat | nest | hang | union | align => cases h
  | _ => trivial

theorem ink_merge? (h : merge? a b = some leaf) :
    leaf.ink casing = a.ink casing ++ b.ink casing := by
  rcases eq_of_merge? h with ⟨s, t, rfl, rfl, rfl⟩ | ⟨s, t, rfl, rfl, rfl⟩ | ⟨ha, hb, hleaf⟩
  · exact ink_append s t
  · rw [ink, casing.apply_append, ink_append]
    rfl
  · rw [ink_of_breaks ha, ink_of_breaks hb, ink_of_breaks hleaf, List.append_nil]

/-- The ink of a document, and whether its unions agree in it, can be read off leaf by leaf. -/
theorem isReading_ink (casing : Casing) :
    IsReading (fun x y : List Char × Prop => (x.1 ++ y.1, x.2 ∧ y.2))
      fun d => (d.ink casing, d.SameInk casing) where
  assoc x y z := by rw [List.append_assoc, and_assoc]
  empty_op d := by simp [ink, SameInk]
  op_empty d := by simp [ink, SameInk]
  cat left right := rfl
  merge {a b leaf} h := by
    obtain ⟨g, ha, hb, hleaf⟩ := grain?_of_merge? h
    rw [ink_merge? h, Prod.mk.injEq]
    exact ⟨rfl, by simp [sameInk_of_grain? ha, sameInk_of_grain? hb, sameInk_of_grain? hleaf]⟩

/-- Padding leaves no ink. -/
theorem ink_padding (columns : Nat) : (padding columns).ink casing = [] := by
  refine ink_eq_nil fun c hc => ?_
  rw [String.toList_ofList] at hc
  rw [List.eq_of_mem_replicate hc]
  rfl

theorem isPadded_ink (ws : Widths) (casing : Casing) :
    IsPadded ws (fun x y : List Char × Prop => (x.1 ++ y.1, x.2 ∧ y.2))
      (fun d => (d.ink casing, d.SameInk casing)) fun d => (d.ink casing, d.SameInk casing) where
  cat left right := rfl
  union {a a' b b'} ha hb := by
    obtain ⟨hink, hsame⟩ := Prod.mk.inj ha
    obtain ⟨hink', hsame'⟩ := Prod.mk.inj hb
    rw [ink, SameInk, hink, hsame, hink', hsame']
    rfl
  nest h := h
  hang h := h
  scope child := rfl
  leaf _ _ := rfl
  full _ _ := rfl
  short {d level width} _ _ := by
    rw [ink_padding, List.append_nil]
    simp [padding, SameInk]

/-- Making columns equally wide changes no ink. -/
theorem ink_scopeContent (aligned : Bool) (d : Doc) (casing : Casing) :
    (d.scopeContent aligned).ink casing = d.ink casing ∧
      ((d.scopeContent aligned).SameInk casing ↔ d.SameInk casing) := by
  rw [scopeContent]
  split
  · obtain ⟨hink, hsame⟩ :=
      Prod.mk.inj ((isReading_ink casing).resolved (isPadded_ink d.measure casing))
    exact ⟨hink, Iff.of_eq hsame⟩
  · exact ⟨rfl, Iff.rfl⟩

/-! ## Layout -/

/-- A document whose unions agree in their ink is rendered in its ink. -/
theorem ink_rendering {o : Options} (h : d.SameInk o.keywordCase) (indent : Column) (mode : Mode)
    (column : Column) :
    VhdlLayout.ink (d.rendering o indent mode column).1 = d.ink o.keywordCase := by
  fun_induction Doc.rendering o indent mode column d with
  | case1 | case2 | case3 => rfl
  | case4 => exact ink_eq_nil (by simp [isInk])
  | case5 | case6 => exact o.ink_lineBreak _
  | case7 => exact ink_join_replicate (o.ink_lineBreak _) _
  | case8 indent mode column left right l r ihl ihr => rw [ink_append, ihl h.1, ihr h.2, ink]
  | case9 _ _ _ child ih | case10 _ _ _ child ih => exact ih h
  | case11 _ _ _ child ih =>
    obtain ⟨hink, hsame⟩ := child.ink_scopeContent o.align o.keywordCase
    rw [ih (hsame.2 h), hink, ink]
  | case12 _ _ _ flat broken _ ih => exact ih h.1
  | case13 _ _ _ flat broken _ ih => rw [ih h.2.1, ← h.2.2, ink]

/-- *Layout changes no ink.* A document whose unions agree in their ink is laid out in its ink,
whatever the options but for the case of reserved words. So the texts that it is laid out as under
options that share this case hold the same characters in the same order, but for spaces, tabs and
those that end lines. -/
theorem ink_print (h : d.SameInk casing) :
    (∀ o : Options, o.keywordCase = casing → VhdlLayout.ink (d.print o) = d.ink casing) ∧
    ∀ o o' : Options, o.keywordCase = casing → o'.keywordCase = casing →
      VhdlLayout.ink (d.print o) = VhdlLayout.ink (d.print o') := by
  have laidOut (o : Options) (ho : o.keywordCase = casing) :
      VhdlLayout.ink (d.print o) = d.ink casing := by
    subst ho
    rw [print_eq_rendering, ink_rendering h]
  exact ⟨laidOut, fun o o' ho ho' => (laidOut o ho).trans (laidOut o' ho').symm⟩

/-- Ports that stand on one line under some options, and below each other, aligned and indented by
tabs, under others. -/
theorem ink_print_ports :
    let port (name : String) :=
      concat (.text name (some 0)) (concat (.text ": " none) (.keyword "In" none))
    let ports := Doc.align (.union (join .softLine [port "clk", port "reset"])
      (.nest (concat .hardLine (join .hardLine [port "clk", port "reset"]))))
    let narrow : Options :=
      { lineWidth := 10, indentStyle := .tabs, lineEnding := .crlf, keywordCase := .upper }
    let plain : Options := { keywordCase := .upper, align := false }
    ports.SameInk .upper ∧
      ports.print narrow = "\r\n\tclk  : IN\r\n\treset: IN" ∧
      ports.print plain = "clk: IN reset: IN" ∧
      VhdlLayout.ink (ports.print narrow) = "clk:INreset:IN".toList ∧
      VhdlLayout.ink (ports.print narrow) = VhdlLayout.ink (ports.print plain) := by
  intro port ports narrow plain
  have agree : ports.SameInk .upper := by
    refine ⟨?_, ?_, ?_⟩
    · simp [port, join, concat, isEmpty, last, first, merge?, hardRun?, SameInk]
    · simp [port, join, concat, isEmpty, last, first, merge?, hardRun?, SameInk]
    · rfl
  exact ⟨agree, by rw [print_eq_rendering]; cbv, by rw [print_eq_rendering]; cbv,
    by rw [(ink_print agree).1 narrow rfl]; cbv, (ink_print agree).2 narrow plain rfl rfl⟩

end Doc

end VhdlLayout
