import Mathlib
import VhdlLayout.Proofs.Token.Recasing
import VhdlLayout.Proofs.Token.Relayout

/-!
# How lines end and begin

Two texts may differ in nothing but how their lines end, by a line feed alone or with
a carriage return before it, and by which blanks the next lines begin
(`Reindented`). They say the same if nothing in one of them is malformed
(`Lexeme.said_of_reindented`).

Most lexemes end on their line, before whatever may end it (`Lexeme.read_respell`,
with letters left in their case). Block comments go on behind it, but the mark that
closes them stands on one line (`Reindented.blockComment`). A text that is not closed
would reach the line end, and take the carriage return for its own.
-/

namespace VhdlLayout

/-! ## Texts -/

/-- A line end and blanks behind it. -/
inductive IsLineBreak : List Char → Prop
  | lf {gap : List Char} : (∀ c ∈ gap, isBlank c = true) → IsLineBreak ('\n' :: gap)
  | crlf {gap : List Char} : (∀ c ∈ gap, isBlank c = true) → IsLineBreak ('\r' :: '\n' :: gap)

/-- The texts are the same but for how lines end and by which blanks the lines behind begin. -/
inductive Reindented : List Char → List Char → Prop
  | nil : Reindented [] []
  | char {c : Char} {cs cs' : List Char} : c ≠ '\n' → c ≠ '\r' → Reindented cs cs' →
      Reindented (c :: cs) (c :: cs')
  | lineBreak {gap gap' cs cs' : List Char} : IsLineBreak gap → IsLineBreak gap' →
      Reindented cs cs' → Reindented (gap ++ cs) (gap' ++ cs')

namespace IsLineBreak

variable {gap : List Char}

theorem isBlank (h : IsLineBreak gap) : ∀ c ∈ gap, VhdlLayout.isBlank c = true := by
  cases h with
  | lf hgap => exact List.forall_mem_cons.2 ⟨rfl, hgap⟩
  | crlf hgap => exact List.forall_mem_cons.2 ⟨rfl, List.forall_mem_cons.2 ⟨rfl, hgap⟩⟩

theorem isLineEnd_append (h : IsLineBreak gap) (cs : List Char) : IsLineEnd (gap ++ cs) := by
  cases h with
  | lf => exact .lf _
  | crlf => exact .crlf _

end IsLineBreak

namespace Reindented

variable {cs cs' ds ds' xs : List Char} {c : Char}

theorem append (h : Reindented cs cs') (h' : Reindented ds ds') :
    Reindented (cs ++ ds) (cs' ++ ds') := by
  induction h with
  | nil => exact h'
  | char hlf hcr _ ih => exact .char hlf hcr ih
  | lineBreak hgap hgap' _ ih =>
    rw [List.append_assoc, List.append_assoc]
    exact .lineBreak hgap hgap' ih

/-- On one line there is nothing to differ in. -/
theorem refl_of_line (h : ∀ c ∈ xs, c ≠ '\n' ∧ c ≠ '\r') : Reindented xs xs := by
  induction xs with
  | nil => exact .nil
  | cons c xs ih =>
    obtain ⟨hc, hxs⟩ := List.forall_mem_cons.1 h
    exact .char hc.1 hc.2 (ih hxs)

theorem eq_nil (h : Reindented cs []) : cs = [] := by
  generalize hcs' : ([] : List Char) = cs' at h
  cases h with
  | nil => rfl
  | char => cases hcs'
  | lineBreak _ hgap' =>
    cases hgap' <;> cases hcs'

/-- What is no blank stands in front of both. -/
theorem exists_cons (hc : isBlank c = false) (h : Reindented cs (c :: cs')) :
    ∃ rest, cs = c :: rest ∧ Reindented rest cs' := by
  generalize hcs' : c :: cs' = ds at h
  cases h with
  | nil => cases hcs'
  | char _ _ h =>
    obtain ⟨rfl, rfl⟩ := List.cons.inj hcs'
    exact ⟨_, rfl, h⟩
  | lineBreak _ hgap' =>
    cases hgap' <;> obtain ⟨rfl, _⟩ := List.cons.inj hcs' <;> cases hc

theorem symm (h : Reindented cs cs') : Reindented cs' cs := by
  induction h with
  | nil => exact .nil
  | char hlf hcr _ ih => exact .char hlf hcr ih
  | lineBreak hgap hgap' _ ih => exact .lineBreak hgap' hgap ih

/-- Behind the blanks in front the texts are the same but for line ends. -/
theorem dropWhile (h : Reindented cs cs') :
    Reindented (cs.dropWhile isBlank) (cs'.dropWhile isBlank) := by
  induction h with
  | nil => exact .nil
  | @char c cs cs' hlf hcr h ih =>
    rw [List.dropWhile_cons, List.dropWhile_cons]
    split
    · exact ih
    · exact .char hlf hcr h
  | lineBreak hgap hgap' _ ih =>
    rwa [List.dropWhile_append_of_pos hgap.isBlank, List.dropWhile_append_of_pos hgap'.isBlank]

/-- The first line is the same. -/
theorem exists_line (h : Reindented cs cs') :
    ∃ xs ds ds', cs = xs ++ ds ∧ cs' = xs ++ ds' ∧ (∀ c ∈ xs, c ≠ '\n' ∧ c ≠ '\r') ∧
      IsLineEnd ds ∧ IsLineEnd ds' ∧ Reindented ds ds' := by
  induction h with
  | nil => exact ⟨[], [], [], rfl, rfl, nofun, .nil, .nil, .nil⟩
  | char hlf hcr _ ih =>
    obtain ⟨xs, ds, ds', rfl, rfl, hxs, hrest⟩ := ih
    exact ⟨_ :: xs, ds, ds', rfl, rfl, List.forall_mem_cons.2 ⟨⟨hlf, hcr⟩, hxs⟩, hrest⟩
  | lineBreak hgap hgap' h =>
    exact ⟨[], _, _, rfl, rfl, nofun, hgap.isLineEnd_append _, hgap'.isLineEnd_append _,
      .lineBreak hgap hgap' h⟩

/-- A mark that is no blank stands in front of both, or of neither. -/
theorem forall_head?_ne (hc : isBlank c = false) (h : Reindented cs cs')
    (hne : ∀ d ∈ cs'.head?, d ≠ c) : ∀ d ∈ cs.head?, d ≠ c := by
  rintro d hd rfl
  obtain ⟨rest, rfl⟩ := List.head?_eq_some_iff.1 hd
  obtain ⟨rest', rfl, -⟩ := h.symm.exists_cons hc
  exact hne d rfl rfl

end Reindented

/-! ## Block comments -/

theorem Body.blockComment_append_of_not_mem {xs : List Char} (hxs : '*' ∉ xs) (cs : List Char) :
    blockComment (xs ++ cs) = (blockComment cs).prepend xs := by
  induction xs with
  | nil => rfl
  | cons c xs ih =>
    obtain ⟨hc, hxs⟩ := not_or.1 (mt List.mem_cons.2 hxs)
    rw [List.cons_append, blockComment_cons fun h => absurd h.symm hc, ih hxs]
    rfl

theorem IsLineBreak.star_not_mem {gap : List Char} (h : IsLineBreak gap) : '*' ∉ gap := fun hmem =>
  absurd (h.isBlank '*' hmem) (by decide)

/-- Block comments end at the same mark, and what follows is the same but for line ends. -/
theorem Reindented.blockComment {cs cs' : List Char} (h : Reindented cs cs') :
    (Body.blockComment cs).closed = (Body.blockComment cs').closed ∧
      Reindented (Body.blockComment cs).rest (Body.blockComment cs').rest := by
  induction h with
  | nil => exact ⟨rfl, .nil⟩
  | @char c cs cs' _ _ h ih =>
    by_cases hclose : c = '*' ∧ ∃ rest, cs' = '/' :: rest
    · obtain ⟨rfl, rest, rfl⟩ := hclose
      obtain ⟨rest', rfl, hrest⟩ := h.exists_cons (by decide)
      exact ⟨rfl, hrest⟩
    · have hmark' : c = '*' → ∀ d ∈ cs'.head?, d ≠ '/' := fun hc =>
        (eq_cons_or_head?_ne '/' cs').resolve_left fun hslash => hclose ⟨hc, hslash⟩
      rw [Body.blockComment_cons hmark',
        Body.blockComment_cons fun hc => h.forall_head?_ne (by decide) (hmark' hc)]
      exact ih
  | lineBreak hgap hgap' _ ih =>
    rw [Body.blockComment_append_of_not_mem hgap.star_not_mem,
      Body.blockComment_append_of_not_mem hgap'.star_not_mem]
    exact ih

/-! ## Lexemes -/

namespace Lexeme

theorem respell_preserve (ds cs : List Char) : Casing.preserve.respell ds cs = cs ++ ds := by
  rw [Casing.respell]
  exact congrArg (· ++ ds) (List.map_id cs)

theorem recased_preserve (ds : List Char) (l : Lexeme) :
    l.recased .preserve ds = { l with rest := l.rest ++ ds } := by
  have htext : l.text.map Casing.preserve.letter = l.text := List.map_id _
  have hfault : l.fault.map (Fault.recased .preserve) = l.fault := by
    cases l.fault with
    | none => rfl
    | some fault => cases fault <;> rfl
  rw [recased, respell_preserve, htext, hfault]

/-- Before the end of a line a lexeme is the same as before nothing, but for the carriage return
that a text takes which is not closed on its line. -/
theorem read_append_lineEnd_cases {ds : List Char} (hds : IsLineEnd ds) (previous : Option Kind)
    {c : Char} {cs : List Char} (hblock : ¬(c = '/' ∧ ∃ rest, cs = '*' :: rest)) :
    read previous c (cs ++ ds) =
        { read previous c cs with rest := (read previous c cs).rest ++ ds } ∨
      ∃ es, ds = '\r' :: es ∧ (read previous c cs).isOpen = true ∧ (read previous c cs).rest = [] ∧
        read previous c (cs ++ ds) =
          { read previous c cs with text := (read previous c cs).text ++ ['\r'], rest := es } := by
  have htext : (read previous c cs).text.map Casing.preserve.letter = (read previous c cs).text :=
    List.map_id _
  have hread := read_respell .preserve hds previous (.inr hblock)
  rw [respell_preserve, IsRecased, recased_preserve, htext] at hread
  refine hread.imp_right fun ⟨es, hcr, hopen, hrest, hcut⟩ => ⟨es, hcr, hopen, hrest, ?_⟩
  rw [recased_preserve, hrest, List.nil_append] at hcut
  exact hcut

/-- Before the end of a line a lexeme is the same as before nothing, unless both are malformed. -/
theorem read_append_lineEnd {ds : List Char} (hds : IsLineEnd ds) (previous : Option Kind)
    {c : Char} {cs : List Char} (hblock : ¬(c = '/' ∧ ∃ rest, cs = '*' :: rest))
    (hfault : (read previous c cs).fault = none ∨ (read previous c (cs ++ ds)).fault = none) :
    (read previous c cs).fault = none ∧
      read previous c (cs ++ ds) =
        { read previous c cs with rest := (read previous c cs).rest ++ ds } := by
  rcases read_append_lineEnd_cases hds previous hblock with hsame | ⟨es, -, hopen, -, hcut⟩
  · rw [hsame] at hfault ⊢
    exact ⟨or_self_iff.1 hfault, rfl⟩
  · rw [hcut] at hfault
    have hnone : (read previous c cs).fault = none := or_self_iff.1 hfault
    rw [isOpen, hnone] at hopen
    cases hopen

/-- What follows a lexeme is what is left of the text. -/
theorem subset_rest_read (previous : Option Kind) (c : Char) (cs : List Char) :
    (read previous c cs).rest ⊆ c :: cs := by
  rw [← read_append previous c cs]
  exact List.subset_append_right _ _

/-- If the lexeme in the second text is well-formed, the first text has the same in front, and what
follows is the same but for line ends. Only the text of a comment may differ. -/
theorem read_reindented {previous : Option Kind} {c : Char} {cs cs' : List Char}
    (hc : isBlank c = false) (h : Reindented cs cs') (hfault : (read previous c cs').fault = none) :
    (read previous c cs).kind = (read previous c cs').kind ∧
      ((read previous c cs').kind ≠ .comment →
        (read previous c cs).text = (read previous c cs').text) ∧
      Reindented (read previous c cs).rest (read previous c cs').rest := by
  by_cases hblock : c = '/' ∧ ∃ rest, cs' = '*' :: rest
  · -- A block comment may have line ends in it.
    obtain ⟨rfl, rest', rfl⟩ := hblock
    obtain ⟨rest, rfl, hrest⟩ := h.exists_cons (by decide)
    have hread (cs : List Char) : read previous '/' ('*' :: cs) =
        (Body.blockComment cs).lexeme ['/', '*'] .comment .unterminatedBlockComment := rfl
    obtain ⟨hclosed, hafter⟩ := hrest.blockComment
    cases hclosed' : (Body.blockComment rest').closed with
    | false =>
      rw [hread, Body.lexeme, hclosed'] at hfault
      cases hfault
    | true =>
      rw [hread, hread, Body.lexeme, Body.lexeme, hclosed, hclosed', if_pos rfl, if_pos rfl]
      exact ⟨rfl, fun hkind => absurd rfl hkind, hafter⟩
  · -- Anything else ends on its line, which is the same one.
    obtain ⟨xs, ds, ds', rfl, rfl, hxs, hds, hds', hrest⟩ := h.exists_line
    have hline : ¬(c = '/' ∧ ∃ rest, xs = '*' :: rest) := by
      rintro ⟨hslash, rest, rfl⟩
      exact hblock ⟨hslash, _, rfl⟩
    obtain ⟨hnone, hsame'⟩ := read_append_lineEnd hds' previous hline (.inr hfault)
    obtain ⟨-, hsame⟩ := read_append_lineEnd hds previous hline (.inl hnone)
    rw [hsame, hsame']
    refine ⟨rfl, fun _ => rfl, .append (.refl_of_line fun d hd => ?_) hrest⟩
    rcases List.mem_cons.1 (subset_rest_read previous c xs hd) with rfl | hd
    · have hne {e : Char} (he : isBlank e = true) : d ≠ e := by
        rintro rfl
        exact absurd he (Bool.eq_false_iff.1 hc)
      exact ⟨hne rfl, hne rfl⟩
    · exact hxs d hd

/-- *How lines end is not said.* Texts that are the same but for how lines end and begin say the
same if nothing in one of them is malformed. -/
theorem said_of_reindented {previous : Option Kind} {cs cs' : List Char} (h : Reindented cs cs')
    (hfault : ∀ l ∈ all previous cs', l.fault = none) :
    (said previous cs).map spelling = (said previous cs').map spelling := by
  fun_induction all previous cs' generalizing cs with
  | case1 previous cs' hcs' =>
    have hcs := h.dropWhile
    rw [hcs'] at hcs
    rw [said_of_dropWhile_eq_nil previous hcs', said_of_dropWhile_eq_nil previous hcs.eq_nil]
  | case2 previous cs' c rest' hcs' ih =>
    have hfront := h.dropWhile
    rw [hcs'] at hfront
    have hblank := isBlank_of_dropWhile_eq_cons hcs'
    obtain ⟨rest, hcs, hrest⟩ := hfront.exists_cons hblank
    obtain ⟨hhead, htail⟩ := List.forall_mem_cons.1 hfault
    obtain ⟨hkind, htext, hafter⟩ := read_reindented hblank hrest hhead
    have hbehind := ih hafter htail
    by_cases hcomment : (read previous c rest').kind = .comment
    · rw [hcomment] at hbehind
      rw [said_of_comment hcs' hcomment, said_of_comment hcs (hkind.trans hcomment)]
      exact hbehind
    · rw [Reader.previousAfter, if_neg hcomment] at hbehind
      rw [said_of_ne_comment hcs' hcomment, said_of_ne_comment hcs (hkind ▸ hcomment),
        List.map_cons, List.map_cons, hkind, hbehind, spelling, spelling, hkind, htext hcomment]

end Lexeme

/-! ## Tokens -/

/-- The fault of a lexeme is reported when it is read. -/
theorem Reader.exists_reading_of_mem_all {r : Reader} (hopen : r.finished = false) :
    ∀ l ∈ Lexeme.all r.previous r.rest, ∃ t ∈ r.readings, t.fault = l.fault := by
  fun_induction readings r with
  | case1 r h => exact absurd h (next?_ne_none hopen)
  | case2 r t s h ih =>
    obtain ⟨_, _, -, ⟨hrest, -, -⟩ | ⟨c, cs, _, hrest, -, rfl, rfl⟩⟩ := next?_cases h
    · rw [Lexeme.all_of_dropWhile_eq_nil _ hrest]
      exact fun l hl => absurd hl List.not_mem_nil
    · rw [Lexeme.all_of_dropWhile_eq_cons _ hrest]
      refine List.forall_mem_cons.2 ⟨⟨_, List.mem_cons_self, rfl⟩, fun l hl => ?_⟩
      obtain ⟨t, ht, hfault⟩ := ih rfl l hl
      exact ⟨t, List.mem_cons_of_mem _ ht, hfault⟩

theorem exists_error_of_mem_all {source : String} {l : Lexeme} {fault : Fault}
    (hl : l ∈ Lexeme.all none source.toList) (hfault : l.fault = some fault) :
    ∃ e ∈ lexicalErrors source, e.fault = fault := by
  obtain ⟨t, ht, hsame⟩ :=
    Reader.exists_reading_of_mem_all (r := Reader.ofSource source) rfl l hl
  refine ⟨⟨fault, t.token.span⟩, List.mem_filterMap.2 ⟨t, ht, ?_⟩, rfl⟩
  rw [Reading.error?, hsame, hfault]
  rfl

theorem fault_eq_none_of_lexicalErrors_eq_nil {source : String} (h : lexicalErrors source = []) :
    ∀ l ∈ Lexeme.all none source.toList, l.fault = none := by
  intro l hl
  refine Option.eq_none_iff_forall_ne_some.2 fun fault hfault => ?_
  obtain ⟨e, he, -⟩ := exists_error_of_mem_all hl hfault
  rw [h] at he
  exact List.not_mem_nil he

/-- Sources that are the same but for how lines end and begin have the same relevant tokens if one
of them has no lexical errors. -/
theorem TokenStream.spellings_eq_of_reindented {source source' : String}
    (h : Reindented source.toList source'.toList) (hsource : lexicalErrors source' = []) :
    (read source).spellings = (read source').spellings := by
  rw [spellings_read, spellings_read]
  exact Lexeme.said_of_reindented h (fault_eq_none_of_lexicalErrors_eq_nil hsource)

end VhdlLayout
