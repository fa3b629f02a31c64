import Mathlib
import VhdlLayout.Proofs.Doc.Respelling
import VhdlLayout.Proofs.Equivalence.Likeness
import VhdlLayout.Proofs.Gate.Preservation
import VhdlLayout.Proofs.Token.LineEnds

/-!
# How lines are written

By which characters a line ends and by which it is indented is a matter of encoding.
Read with tabs as wide as a unit of indentation, and with one character for the end
of a line, a document is laid out as it is with spaces and line feeds
(`Doc.print_plain`): a column is where it is, whatever leads there.

Nor is the verdict another one, if what is laid out with spaces and line feeds has no
lexical errors. (If it has, it may be: a string that is not closed ends with its line,
and has a carriage return in it if the line ends with one.)
-/

namespace VhdlLayout

/-! ## Encodings -/

/-- The same options, with lines that are indented by spaces and end in line feeds. -/
def Options.plain (o : Options) : Options := { o with indentStyle := .spaces, lineEnding := .lf }

/-- The characters of a text with a line feed for every carriage return and line feed, and with so
many spaces for every tab. -/
def decodedChars (tabWidth : Nat) : List Char → List Char
  | '\r' :: '\n' :: cs => '\n' :: decodedChars tabWidth cs
  | '\t' :: cs => List.replicate tabWidth ' ' ++ decodedChars tabWidth cs
  | c :: cs => c :: decodedChars tabWidth cs
  | [] => []

/-- The text with a line feed for every carriage return and line feed, and with so many spaces for
every tab. -/
def decoded (tabWidth : Nat) (text : String) : String :=
  String.ofList (decodedChars tabWidth text.toList)

/-- The character has no part in indenting by tabs or in ending a line. -/
def IsPlain (c : Char) : Prop := c ≠ '\t' ∧ c ≠ '\r' ∧ c ≠ '\n'

instance : DecidablePred IsPlain := fun _ => inferInstanceAs (Decidable (_ ∧ _ ∧ _))

variable {w : Nat} {c : Char}

theorem decodedChars_cons (htab : c ≠ '\t') (hcr : c ≠ '\r') (cs : List Char) :
    decodedChars w (c :: cs) = c :: decodedChars w cs := by
  rw [decodedChars]
  · rintro _ rfl
    exact absurd rfl hcr
  · exact htab

theorem decodedChars_append {xs : List Char} (h : ∀ c ∈ xs, c ≠ '\t' ∧ c ≠ '\r') (cs : List Char) :
    decodedChars w (xs ++ cs) = xs ++ decodedChars w cs := by
  induction xs with
  | nil => rfl
  | cons c xs ih =>
    obtain ⟨hc, hxs⟩ := List.forall_mem_cons.1 h
    rw [List.cons_append, decodedChars_cons hc.1 hc.2, ih hxs, List.cons_append]

theorem decodedChars_tabs (count : Nat) (cs : List Char) :
    decodedChars w (List.replicate count '\t' ++ cs) =
      List.replicate (w * count) ' ' ++ decodedChars w cs := by
  induction count with
  | zero => rfl
  | succ count ih =>
    rw [List.replicate_succ, List.cons_append, decodedChars, ih, ← List.append_assoc,
      List.replicate_append_replicate, Nat.mul_succ, Nat.add_comm]

theorem decodedChars_spaces (count : Nat) (cs : List Char) :
    decodedChars w (List.replicate count ' ' ++ cs) =
      List.replicate count ' ' ++ decodedChars w cs :=
  decodedChars_append (fun c hc => by rw [List.eq_of_mem_replicate hc]; decide) cs

/-- Indentation is decoded to spaces, as many as columns are indented by. -/
theorem Options.decodedChars_indentation (o : Options) (columns : Nat) (cs : List Char) :
    decodedChars o.tabWidth ((o.indentation columns).toList ++ cs) =
      List.replicate columns ' ' ++ decodedChars o.tabWidth cs := by
  rw [indentation]
  cases o.indentStyle with
  | spaces => rw [String.toList_ofList, decodedChars_spaces]
  | tabs =>
    -- The tabs are decoded to the full units and the spaces are what remains.
    dsimp only
    rw [String.toList_ofList, List.append_assoc, decodedChars_tabs, decodedChars_spaces,
      ← List.append_assoc, List.replicate_append_replicate, Nat.div_add_mod]

theorem Options.toList_lineBreak_plain (o : Options) (indent : Column) :
    (o.plain.lineBreak indent).toList = '\n' :: List.replicate indent.toNat ' ' := by
  have hspaces : o.plain.lineBreak indent =
      "\n" ++ String.ofList (List.replicate indent.toNat ' ') := rfl
  rw [hspaces]
  simp

theorem Options.decodedChars_lineBreak (o : Options) (indent : Column) (cs : List Char) :
    decodedChars o.tabWidth ((o.lineBreak indent).toList ++ cs) =
      (o.plain.lineBreak indent).toList ++ decodedChars o.tabWidth cs := by
  rw [o.toList_lineBreak_plain, lineBreak, String.toList_append, List.append_assoc,
    List.cons_append, ← o.decodedChars_indentation]
  cases o.lineEnding with
  | lf => exact decodedChars_cons (by decide) (by decide) _
  | crlf => rfl

theorem Options.isBlank_indentation (o : Options) (columns : Nat) :
    ∀ c ∈ (o.indentation columns).toList, isBlank c = true := by
  intro c hc
  rcases o.eq_of_mem_indentation hc with rfl | rfl <;> rfl

theorem Options.isLineBreak_lineBreak (o : Options) (indent : Column) :
    IsLineBreak (o.lineBreak indent).toList := by
  rw [lineBreak, String.toList_append]
  cases o.lineEnding with
  | lf => exact .lf (o.isBlank_indentation indent.toNat)
  | crlf => exact .crlf (o.isBlank_indentation indent.toNat)

/-- The second text is what the first is decoded to, whatever follows, and the two are the same but
for how lines end and begin. -/
structure IsEncoding (tabWidth : Nat) (s s' : String) : Prop where
  decoded (cs : List Char) :
    decodedChars tabWidth (s.toList ++ cs) = s'.toList ++ decodedChars tabWidth cs
  reindented : Reindented s.toList s'.toList

theorem IsEncoding.append {s s' t t' : String} (h : IsEncoding w s s') (h' : IsEncoding w t t') :
    IsEncoding w (s ++ t) (s' ++ t') where
  decoded cs := by
    rw [String.toList_append, String.toList_append, List.append_assoc, h.decoded, h'.decoded,
      List.append_assoc]
  reindented := by
    rw [String.toList_append, String.toList_append]
    exact h.reindented.append h'.reindented

/-- A text without tabs and line ends is its own encoding. -/
theorem IsEncoding.of_isPlain {text : String} (h : ∀ c ∈ text.toList, IsPlain c) :
    IsEncoding w text text where
  decoded := decodedChars_append fun c hc => ⟨(h c hc).1, (h c hc).2.1⟩
  reindented := .refl_of_line fun c hc => ⟨(h c hc).2.2, (h c hc).2.1⟩

theorem isPlain_letter_iff (casing : Casing) : IsPlain (casing.letter c) ↔ IsPlain c := by
  rw [IsPlain, IsPlain, Ne, Ne, Ne, casing.letter_eq_iff rfl, casing.letter_eq_iff rfl,
    casing.letter_eq_iff rfl]

/-- Under the plain options everything is spelled as it is decoded. -/
theorem Options.respells_plain (o : Options) :
    o.Respells o.plain IsPlain (IsEncoding o.tabWidth) where
  lineWidth := rfl
  indentSize := rfl
  align := rfl
  space := by decide
  append := IsEncoding.append
  text := IsEncoding.of_isPlain
  keyword {content} h := by
    refine .of_isPlain fun c hc => ?_
    rw [o.keywordCase.toList_apply] at hc
    obtain ⟨c, hmem, rfl⟩ := List.mem_map.1 hc
    exact (isPlain_letter_iff o.keywordCase).2 (h c hmem)
  lineBreak indent :=
    { decoded := o.decodedChars_lineBreak indent
      reindented := by
        have := Reindented.lineBreak (o.isLineBreak_lineBreak indent)
          (o.plain.isLineBreak_lineBreak indent) .nil
        rwa [List.append_nil, List.append_nil] at this }

/-! ## Verdicts -/

/-- A comparison sees no more of a formatted text than its relevant tokens. -/
theorem TokenStream.divergence?_eq_none_congr {s s' : TokenStream} (h : s.spellings = s'.spellings)
    (original : TokenStream) :
    original.divergence? s = none ↔ original.divergence? s' = none := by
  have alike : List.Forall₂ (fun t t' => t.kind = t'.kind ∧ s.text t = s'.text t') s.relevant
      s'.relevant := by
    rw [spellings, spellings, ← List.forall₂_eq_eq_eq, List.forall₂_map_left_iff,
      List.forall₂_map_right_iff] at h
    exact h.imp fun t t' htt => Prod.mk.inj htt
  have hsame (o : Token) {t t' : Token} (ht : t.kind = t'.kind ∧ s.text t = s'.text t') :
      original.sameToken s o t = original.sameToken s' o t' := by
    rw [sameToken, sameToken, ht.1, ht.2]
  have walk := Parting.find?_alike And.left hsame original.relevant alike
  rw [divergence?, divergence?, Option.map_eq_none_iff, Option.map_eq_none_iff]
  revert walk
  generalize Parting.find? (original.sameToken s) original.relevant s.relevant = parting
  generalize Parting.find? (original.sameToken s') original.relevant s'.relevant = parting'
  rintro (_ | _)
  · exact iff_of_false (Option.some_ne_none _) (Option.some_ne_none _)
  · exact iff_of_true rfl rfl

/-- *How lines are written is a matter of encoding.* Where tabs and line ends are written by layout
alone, what is laid out is an encoding of what is laid out with spaces and line feeds. If that has
no lexical errors, either both or neither are given out, whatever the original. -/
theorem Doc.print_plain {d : Doc} (hd : d.AllChars IsPlain) (o : Options) :
    decoded o.tabWidth (d.print o) = d.print o.plain ∧
      (lexicalErrors (d.print o.plain) = [] → ∀ original,
        (∃ text, d.format original o = .ok text) ↔
          ∃ text, d.format original o.plain = .ok text) := by
  have encoding := print_respelled o.respells_plain hd
  refine ⟨?_, fun herrors original => ?_⟩
  · have whole := encoding.decoded []
    rw [List.append_nil, decodedChars, List.append_nil] at whole
    rw [decoded, whole, String.ofList_toList]
  · have said := TokenStream.spellings_eq_of_reindented encoding.reindented herrors
    simp only [format_eq_ok_iff, exists_and_left, exists_eq', and_true]
    exact TokenStream.divergence?_eq_none_congr said (.read original)

/-- A comment over two lines that hang in the fifth column, indented by a tab and two spaces. -/
theorem Doc.print_plain_comment :
    let d := Doc.cat (.text "x <= " none)
      (.hang (join .hardLine [.text "/*" none, .text "*/" none, .text "y;" none]))
    let o : Options := { indentSize := 3, indentStyle := .tabs, lineEnding := .crlf }
    d.AllChars IsPlain ∧ lexicalErrors (d.print o.plain) = [] ∧
      d.print o = "x <= /*\r\n\t  */\r\n\t  y;" ∧
      d.print o.plain = "x <= /*\n     */\n     y;" ∧
      decoded 3 (d.print o) = d.print o.plain ∧
      ∀ original, (∃ text, d.format original o = .ok text) ↔
        ∃ text, d.format original o.plain = .ok text := by
  intro d o
  have hd : d.AllChars IsPlain := by decide
  have plain : d.print o.plain = "x <= /*\n     */\n     y;" := by
    rw [print_eq_rendering]
    cbv
  have errors : lexicalErrors (d.print o.plain) = [] := by
    rw [plain]
    decide +kernel
  exact ⟨hd, errors, by rw [print_eq_rendering]; cbv, plain, (print_plain hd o).1,
    (print_plain hd o).2 errors⟩

end VhdlLayout
