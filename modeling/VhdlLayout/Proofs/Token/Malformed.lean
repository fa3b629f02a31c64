import Mathlib
import VhdlLayout.Proofs.Token.Quotation

/-!
# Malformed tokens and their errors

Reading goes on behind what is malformed. What is wrong with it is put down in a list of
its own, from wherever in the reading it is found out (`Reader.readLogging`). The list
and the malformed tokens keep in step (`lexicalErrors_exact`): both come from the same
readings, and a reading has a fault just if its token is malformed.

A fault says something of the text that has it and of where this ends (`Fault.Fits`):
what is not closed on its line goes up to the end of the line, a block comment that is
not closed up to the end of the source. That lexemes are malformed just if they have a
fault, and that the fault fits (`Lexeme.IsDiagnosed`), is shown along the functions that
read them. Those that read a quoted text may begin before its quotation mark, with the
length and the base of a bit string; there is no new line in these.
-/

namespace VhdlLayout

/-! ## Reading with a log -/

namespace Reader

/-- The tokens that are still to be read, and `log` with the errors behind that are met on the
way. -/
def readLogging (r : Reader) (log : List LexicalError) : List Token × List LexicalError :=
  match _h : r.next? with
  | none => ([], log)
  | some (t, s) =>
    let behind := s.readLogging (log ++ t.error?.toList)
    (t.token :: behind.1, behind.2)
termination_by r.pending
decreasing_by exact next?_pending _h

/-- The log does not change what is read, and nothing else is put down in it. -/
theorem readLogging_eq (r : Reader) (log : List LexicalError) :
    r.readLogging log =
      (r.readings.map Reading.token, log ++ r.readings.filterMap Reading.error?) := by
  fun_induction readLogging r log with
  | case1 r log h =>
    rw [readings_of_next?_eq_none h, List.filterMap_nil, List.append_nil, List.map_nil]
  | case2 r log t s h behind ih =>
    rw [readings_of_next? h, List.map_cons]
    simp only [behind, ih]
    cases herror : t.error? <;> simp [herror]

end Reader

/-- The tokens of a source, and the errors that are met in reading them. -/
def Token.readAllLogging (source : String) : List Token × List LexicalError :=
  (Reader.ofSource source).readLogging []

/-! ## What faults say -/

/-- What the fault says is so of the text that has it, where `rest` stands behind. -/
def Fault.Fits (text rest : List Char) : Fault → Prop
  | .unexpectedCharacter c => text = [c]
  | .unterminatedString | .unterminatedExtendedIdentifier => '\n' ∉ text ∧ IsBreak rest
  | .unterminatedBlockComment =>
    ['/', '*'] <+: text ∧ ¬ ['*', '/'] <:+: text.drop 2 ∧ rest = []
  | .invalidBasedLiteral literal => literal.toList = text

/-- No mark closes a block comment that is not closed. -/
theorem Body.not_infix_blockComment {cs : List Char} (h : (blockComment cs).closed = false) :
    ¬ ['*', '/'] <:+: (blockComment cs).text := by
  fun_induction blockComment cs with
  | case1 => simp
  | case2 => cases h
  | case3 c cs hno ih =>
    rw [prepend, List.singleton_append, List.infix_cons_iff, not_or]
    refine ⟨?_, ih h⟩
    rintro ⟨ds, hds⟩
    obtain ⟨rfl, hcs⟩ := List.cons.inj (show '*' :: '/' :: ds = c :: (blockComment cs).text from hds)
    have hwhole := blockComment_append cs
    rw [← hcs, List.cons_append] at hwhole
    exact hno _ rfl hwhole.symm

namespace Lexeme

/-- The lexeme has a fault just if it is malformed, and then one that fits. -/
structure IsDiagnosed (l : Lexeme) : Prop where
  isSome_fault : l.fault.isSome = true ↔ l.kind = .error
  fits : ∀ fault ∈ l.fault, fault.Fits l.text l.rest

theorem IsDiagnosed.of_ne_error {l : Lexeme} (hkind : l.kind ≠ .error) (hfault : l.fault = none) :
    l.IsDiagnosed where
  isSome_fault := by simp [hkind, hfault]
  fits := by simp [hfault]

theorem IsDiagnosed.of_fits {text rest : List Char} {fault : Fault} (h : fault.Fits text rest) :
    IsDiagnosed { kind := .error, text, rest, fault := some fault } where
  isSome_fault := iff_of_true rfl rfl
  fits := by rintro _ ⟨⟩; exact h

/-! ## Quoted texts -/

/-- What is quoted has a fault if it is not closed. It has no new line if there is none before the
quotation mark. -/
theorem isDiagnosed_quoted (delim : Char) (cs : List Char) {lead : List Char} {kind : Kind}
    {fault : Fault} (hlead : '\n' ∉ lead) (hkind : kind ≠ .error)
    (hfault : ∀ text rest, '\n' ∉ text → IsBreak rest → fault.Fits text rest) :
    ((Body.quoted delim cs).lexeme lead kind fault).IsDiagnosed := by
  obtain ⟨s, hs, htext, -, hrest⟩ := Body.exists_doubled delim cs
  rw [Body.lexeme]
  split
  · exact .of_ne_error hkind rfl
  · next hclosed =>
    refine .of_fits (hfault _ _ ?_ (hrest (Bool.eq_false_iff.2 hclosed)))
    rw [htext, if_neg hclosed, List.append_nil, List.mem_append]
    exact not_or.2 ⟨hlead, fun h => hs (mem_doubled.1 h)⟩

/-! ## Numbers -/

theorem isDiagnosed_withExponent {kind : Kind} (hkind : kind ≠ .error) (text rest : List Char) :
    (withExponent kind text rest).IsDiagnosed := .of_ne_error hkind rfl

theorem isDiagnosed_closeBased {kind : Kind} (hkind : kind ≠ .error) (text cs : List Char) :
    (closeBased kind text cs).IsDiagnosed := by
  fun_cases closeBased kind text cs with
  | case1 => exact isDiagnosed_withExponent hkind _ _
  | case2 => exact .of_fits String.toList_ofList

theorem isDiagnosed_basedTail (digits cs : List Char) : (basedTail digits cs).IsDiagnosed := by
  fun_cases basedTail digits cs with
  | case1 => exact isDiagnosed_closeBased (by decide) _ _
  | case2 => exact isDiagnosed_closeBased (by decide) _ _

theorem isDiagnosed_decimal (digits cs : List Char) : (decimal digits cs).IsDiagnosed := by
  fun_cases decimal digits cs <;> exact isDiagnosed_withExponent (by decide) _ _

theorem newLine_not_mem_of_isBaseSpecifier {base : List Char} (h : isBaseSpecifier base = true) :
    '\n' ∉ base := fun hmem =>
  ne_of_holds (isAlphabetic_of_isBaseSpecifier h _ hmem) (by decide) rfl

theorem isDiagnosed_numberTail {digits : List Char} (hdigits : '\n' ∉ digits) (cs : List Char) :
    (numberTail digits cs).IsDiagnosed := by
  fun_cases numberTail digits cs with
  | case1 => exact isDiagnosed_basedTail _ _
  | case2 cs _ _ body hbase =>
    obtain ⟨base, isBase, rfl, -⟩ := exists_base_of_sizedBase? hbase
    refine isDiagnosed_quoted _ _ ?_ (by decide) fun _ _ => And.intro
    simp [hdigits, newLine_not_mem_of_isBaseSpecifier isBase]
  | case3 => exact isDiagnosed_decimal _ _

/-! ## Words, comments and the rest -/

theorem isDiagnosed_ofWord (text rest : List Char) : (ofWord text rest).IsDiagnosed := by
  rw [ofWord]
  split <;> exact .of_ne_error (by simp) rfl

theorem isDiagnosed_ofRun (text cs : List Char) : (ofRun text cs).IsDiagnosed := by
  fun_cases ofRun text cs with
  | case1 body isBase =>
    refine isDiagnosed_quoted _ _ ?_ (by decide) fun _ _ => And.intro
    simp [newLine_not_mem_of_isBaseSpecifier isBase]
  | case2 => exact isDiagnosed_ofWord _ _
  | case3 => exact isDiagnosed_ofWord _ _

theorem isDiagnosed_apostrophe (previous : Option Kind) (cs : List Char) :
    (apostrophe previous cs).IsDiagnosed := by
  fun_cases apostrophe previous cs <;> exact .of_ne_error (by simp) rfl

theorem isDiagnosed_mark (c : Char) (cs : List Char) : (mark c cs).IsDiagnosed := by
  unfold mark
  split
  · exact .of_ne_error (by simp) rfl
  · next rest =>
    rw [Body.lexeme]
    split
    · exact .of_ne_error (by simp) rfl
    · next hclosed =>
      replace hclosed := Bool.eq_false_iff.2 hclosed
      exact .of_fits ⟨⟨_, rfl⟩, Body.not_infix_blockComment hclosed,
        Body.rest_blockComment hclosed⟩
  · split
    · exact .of_ne_error (by simp) rfl
    · exact .of_fits rfl

theorem isDiagnosed_read (previous : Option Kind) (c : Char) (cs : List Char) :
    (read previous c cs).IsDiagnosed := by
  fun_cases read previous c cs with
  | case1 => exact isDiagnosed_apostrophe _ _
  | case2 => exact isDiagnosed_quoted _ _ (by decide) (by decide) fun _ _ => And.intro
  | case3 => exact isDiagnosed_quoted _ _ (by decide) (by decide) fun _ _ => And.intro
  | case4 _ _ _ hdigit =>
    refine isDiagnosed_numberTail (fun hmem => ?_) _
    rcases List.mem_cons.1 hmem with rfl | hmem
    · cases hdigit
    · exact ne_of_holds (List.mem_takeWhile_imp hmem) isDigitPart_newLine rfl
  | case5 => exact isDiagnosed_ofRun _ _
  | case6 => exact isDiagnosed_mark _ _

end Lexeme

/-! ## Readings -/

section Readings

variable {source : String} {r : Reading}

theorem isDiagnosed_of_mem_readings (h : r ∈ readings source) :
    (r.lexeme source).IsDiagnosed := by
  rcases exists_read_of_mem_readings h with ⟨hkind, hfault, -⟩ | ⟨previous, c, cs, -, hlexeme⟩
  · refine .of_ne_error (fun herror => ?_) hfault
    cases hkind.symm.trans herror
  · rw [hlexeme]
    exact Lexeme.isDiagnosed_read previous c cs

/-- Where just the malformed tokens have a fault, the errors are about these. -/
theorem map_span_filterMap_error? {rs : List Reading}
    (h : ∀ r ∈ rs, r.fault.isSome = true ↔ r.token.kind = .error) :
    (rs.filterMap Reading.error?).map LexicalError.span =
      ((rs.map Reading.token).filter (·.kind = .error)).map Token.span := by
  induction rs with
  | nil => rfl
  | cons r rs ih =>
    obtain ⟨hr, hrs⟩ := List.forall_mem_cons.1 h
    rw [List.map_cons]
    cases hfault : r.fault with
    | none =>
      have hkind : ¬ r.token.kind = .error := by simp [← hr, hfault]
      rw [List.filterMap_cons_none (by simp [Reading.error?, hfault]),
        List.filter_cons_of_neg (by simp [hkind]), ih hrs]
    | some fault =>
      have hkind : r.token.kind = .error := by simp [← hr, hfault]
      rw [List.filterMap_cons_some (by simp [Reading.error?, hfault]; rfl),
        List.filter_cons_of_pos (by simp [hkind]), List.map_cons, List.map_cons, ih hrs]

end Readings

/-- *Errors and malformed tokens.* To put down the errors on the way does not change what is read.
The errors are those of the malformed tokens of the source, one for each and in their order. Each is
about a stretch of the source and fits its text. -/
theorem lexicalErrors_exact (source : String) :
    Token.readAllLogging source = (Token.readAll source, lexicalErrors source) ∧
    (lexicalErrors source).map LexicalError.span =
      ((Token.readAll source).filter (·.kind = .error)).map Token.span ∧
    ∀ e ∈ lexicalErrors source, e.span.isIn source = true ∧
      e.fault.Fits (e.span.text source).toList
        (Span.text ⟨e.span.stop, source.utf8ByteSize⟩ source).toList := by
  refine ⟨Reader.readLogging_eq _ _, map_span_filterMap_error? fun r hr =>
    (isDiagnosed_of_mem_readings hr).isSome_fault, fun e he => ?_⟩
  obtain ⟨r, hr, he⟩ := List.mem_filterMap.1 he
  obtain ⟨fault, hfault, rfl⟩ := Option.map_eq_some_iff.1 he
  refine ⟨?_, (isDiagnosed_of_mem_readings hr).fits fault hfault⟩
  exact Token.isIn_of_mem_readAll (List.mem_map_of_mem hr)

/-- Two errors after which reading goes on. -/
example : lexicalErrors "x := 16#FF; /* open" =
    [⟨.invalidBasedLiteral "16#FF", ⟨5, 10⟩⟩, ⟨.unterminatedBlockComment, ⟨12, 19⟩⟩] := by
  decide +kernel

end VhdlLayout
