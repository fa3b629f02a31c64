import Mathlib.Data.List.Forall2
import VhdlLayout.Proofs.Toml.Scalar
import VhdlLayout.Toml.Document

/-!
# Reading lines that give names to plain values

A text may consist of lines which each give a name to a plain value
(`Toml.Line`). If the names are all different, the table of the text has just the
entries that the lines say (`Table.ofText?_join`).

A line is read the same way whatever stands below it, so the text is read by
induction on its lines. An entry whose name is new to the table goes to its end,
so the table is built by induction on the entries.
-/

namespace VhdlLayout.Toml

theorem exists_right_of_forall₂ {α β : Type} {R : α → β → Prop} {as : List α} {bs : List β}
    (h : List.Forall₂ R as bs) : ∀ a ∈ as, ∃ b ∈ bs, R a b := by
  induction h with
  | nil => exact List.forall_mem_nil _
  | cons hab _ ih =>
    refine List.forall_mem_cons.2 ⟨⟨_, List.mem_cons_self, hab⟩, fun a ha => ?_⟩
    obtain ⟨b, hb, hr⟩ := ih a ha
    exact ⟨b, List.mem_cons_of_mem _ hb, hr⟩

theorem exists_left_of_forall₂ {α β : Type} {R : α → β → Prop} {as : List α} {bs : List β}
    (h : List.Forall₂ R as bs) : ∀ b ∈ bs, ∃ a ∈ as, R a b :=
  exists_right_of_forall₂ (R := flip R) h.flip

/-- A name that a plain value is given, and how the value is written. -/
structure Line where
  name : String
  written : String
  value : Scalar

namespace Line

/-- The line with its end. -/
def text (l : Line) : String := l.name ++ " = " ++ l.written ++ "\n"

/-- The name needs no quotes, and the value is written in the usual way. -/
structure IsPlain (l : Line) : Prop where
  name_ne : l.name ≠ ""
  isNameChar_of_mem : ∀ c ∈ l.name.toList, isNameChar c
  isSpelled : l.value.IsSpelled l.written

theorem IsPlain.exists_name_eq_cons {l : Line} (h : l.IsPlain) :
    ∃ c cs, l.name.toList = c :: cs ∧ isNameChar c := by
  cases hname : l.name.toList with
  | nil => exact absurd (by simpa using hname) h.name_ne
  | cons c cs => exact ⟨c, cs, rfl, h.isNameChar_of_mem c (hname ▸ List.mem_cons_self)⟩

/-- The line says what the entry of the table is. -/
def Says (l : Line) (e : Key × Item) : Prop :=
  e.1.name = l.name ∧ ∃ extent, e.2 = .scalar l.value extent

theorem map_name_of_says {lines : List Line} {es : List (Key × Item)}
    (h : List.Forall₂ Says lines es) : es.map (·.1.name) = lines.map name := by
  induction h with
  | nil => rfl
  | cons hl _ ih => rw [List.map_cons, List.map_cons, hl.1, ih]

end Line

namespace Rule

theorem dropWhile_isBlank_of_head {c : Char} (h : isBlank c = false) (cs : List Char) :
    (c :: cs).dropWhile isBlank = c :: cs := by
  rw [List.dropWhile_cons, if_neg (by simp [h])]

/-- A name without quotes is taken up to the first character that may not be in it. -/
theorem run_name_append {cs : List Char} (hne : cs ≠ []) (h : ∀ c ∈ cs, isNameChar c) {d : Char}
    (hd : isNameChar d = false) (rest : List Char) :
    name.run (cs ++ d :: rest) = some (String.ofList cs, d :: rest) := by
  have hquoted : quotedLine.run (cs ++ d :: rest) = none := by
    cases cs with
    | nil => exact absurd rfl hne
    | cons c cs =>
      have hc := h c List.mem_cons_self
      refine run_quotedLine_eq_none ?_ ?_ _ <;>
      · rintro rfl
        exact absurd hc (by decide)
  simp [name, hquoted, List.takeWhile_append_of_pos h, List.dropWhile_append_of_pos h, hd,
    Option.filter, hne]

theorem run_key_append {cs : List Char} (hne : cs ≠ []) (h : ∀ c ∈ cs, isNameChar c)
    (rest : List Char) :
    ∃ extent, key.run (cs ++ ' ' :: '=' :: rest) =
      some (⟨String.ofList cs, extent⟩, '=' :: rest) := by
  have hblanks : (cs ++ ' ' :: '=' :: rest).dropWhile isBlank = cs ++ ' ' :: '=' :: rest := by
    cases cs with
    | nil => exact absurd rfl hne
    | cons c cs =>
      exact dropWhile_isBlank_of_head (isBlank_of_isNameChar (h c List.mem_cons_self)) _
  have hrest : (' ' :: '=' :: rest).dropWhile isBlank = '=' :: rest := rfl
  simp [key, hblanks, run_name_append hne h (by decide : isNameChar ' ' = false), hrest]

/-- A name before an equals sign is a dotted name of one part. -/
theorem run_dottedKey_append {cs : List Char} (hne : cs ≠ []) (h : ∀ c ∈ cs, isNameChar c)
    (rest : List Char) :
    ∃ extent, dottedKey.run (cs ++ ' ' :: '=' :: rest) =
      some (([], ⟨String.ofList cs, extent⟩), '=' :: rest) := by
  obtain ⟨extent, hkey⟩ := run_key_append hne h rest
  have hothers : manyFrom (char '.' *> key) ('=' :: rest) = ([], '=' :: rest) :=
    manyFrom_of_run_eq_none (by simp)
  exact ⟨extent, by simp [dottedKey, separatedBy, hkey, hothers, maxDepth]⟩

/-- A plain value is taken as an item of any depth. -/
theorem run_value_append {x : Scalar} {text : String} (h : x.IsReadFrom text) (depth : Nat)
    (rest : List Char) :
    ∃ extent, (value depth).run (text.toList ++ '\n' :: rest) =
      some (.scalar x extent, '\n' :: rest) := by
  have hscalar : ∃ extent, scalarItem.run (text.toList ++ '\n' :: rest) =
      some (.scalar x extent, '\n' :: rest) := by
    simp [scalarItem, h.reads]
  cases depth with
  | zero => exact hscalar
  | succ depth =>
    obtain ⟨c, cs, htext, -, hbracket, hbrace⟩ := h.begins
    obtain ⟨extent, hscalar⟩ := hscalar
    refine ⟨extent, ?_⟩
    rw [htext] at hscalar ⊢
    simpa [value, arrayItem, tableItem, items, entries, hbracket, hbrace] using hscalar

theorem run_restOfLine_newline (rest : List Char) :
    restOfLine.run ('\n' :: rest) = some ((), rest) := by
  have hnewline : newline.run ('\n' :: rest) = some ((), rest) := rfl
  simp [restOfLine, comment, hnewline, isBlank]

/-- The entry of a line is taken up to the end of the line. -/
theorem run_entry_append {l : Line} (h : l.IsPlain) (depth : Nat) (rest : List Char) :
    ∃ e, l.Says e ∧
      (entry (value depth)).run
        (l.name.toList ++ ' ' :: '=' :: ' ' :: (l.written.toList ++ '\n' :: rest)) =
      some (⟨[], e.1, e.2⟩, '\n' :: rest) := by
  obtain ⟨place, hkey⟩ := run_dottedKey_append (by simpa using h.name_ne) h.isNameChar_of_mem
    (' ' :: (l.written.toList ++ '\n' :: rest))
  obtain ⟨extent, hvalue⟩ := run_value_append h.isSpelled.isReadFrom depth rest
  obtain ⟨c, cs, hwritten, hblank, -⟩ := h.isSpelled.isReadFrom.begins
  have hblanks : (' ' :: (l.written.toList ++ '\n' :: rest)).dropWhile isBlank =
      l.written.toList ++ '\n' :: rest := by
    rw [hwritten]
    exact dropWhile_isBlank_of_head hblank _
  exact ⟨(⟨l.name, place⟩, .scalar l.value extent), ⟨rfl, extent, rfl⟩,
    by simp [entry, hkey, hblanks, hvalue]⟩

/-- What a line says is taken with the end of the line, whatever stands below it. -/
theorem run_statementLine_append {l : Line} (h : l.IsPlain) (rest : List Char) :
    ∃ e, l.Says e ∧ statementLine.run (l.text.toList ++ rest) =
      some (some (.entry ⟨[], e.1, e.2⟩), rest) := by
  obtain ⟨e, hsays, hentry⟩ := run_entry_append h maxDepth rest
  have htext : l.text.toList ++ rest =
      l.name.toList ++ ' ' :: '=' :: ' ' :: (l.written.toList ++ '\n' :: rest) := by
    simp [Line.text]
  obtain ⟨c, cs, hname, hc⟩ := h.exists_name_eq_cons
  have hbracket : c ≠ '[' := by
    rintro rfl
    exact absurd hc (by decide)
  refine ⟨e, hsays, ?_⟩
  rw [hname, List.cons_append] at hentry htext
  rw [htext]
  simp [statementLine, dropWhile_isBlank_of_head (isBlank_of_isNameChar hc), header, bracketed,
    hbracket, hentry, run_restOfLine_newline]

end Rule

namespace Statement

theorem withoutMark_of_head?_ne {cs : List Char} (h : cs.head? ≠ some '\ufeff') :
    withoutMark cs = cs := by
  unfold withoutMark
  split
  · simp at h
  · rfl

theorem manyFrom_statementLine_flatMap {lines : List Line} (h : ∀ l ∈ lines, l.IsPlain) :
    ∃ es, List.Forall₂ Line.Says lines es ∧
      Rule.manyFrom Rule.statementLine (lines.flatMap fun l => l.text.toList) =
        (es.map fun e => some (.entry ⟨[], e.1, e.2⟩), []) := by
  induction lines with
  | nil => exact ⟨[], .nil, by simp⟩
  | cons l lines ih =>
    obtain ⟨es, hsays, hlines⟩ := ih fun l' hl' => h l' (List.mem_cons_of_mem l hl')
    obtain ⟨e, hl, hline⟩ := Rule.run_statementLine_append (h l List.mem_cons_self)
      (lines.flatMap fun l => l.text.toList)
    have hshorter : 0 < l.text.toList.length := by simp [Line.text]
    refine ⟨e :: es, .cons hl hsays, ?_⟩
    rw [List.flatMap_cons, Rule.manyFrom_of_run hline (by simp only [List.length_append]; omega),
      hlines, List.map_cons]

/-- The text of lines says what its lines say. -/
theorem ofText?_join {lines : List Line} (h : ∀ l ∈ lines, l.IsPlain) :
    ∃ es, List.Forall₂ Line.Says lines es ∧
      ofText? (String.join (lines.map Line.text)) =
        some (es.map fun e => .entry ⟨[], e.1, e.2⟩) := by
  obtain ⟨es, hsays, hlines⟩ := manyFrom_statementLine_flatMap h
  refine ⟨es, hsays, ?_⟩
  have hmark : (lines.flatMap fun l => l.text.toList).head? ≠ some '\ufeff' := by
    cases lines with
    | nil => simp
    | cons l lines =>
      obtain ⟨c, cs, hname, hc⟩ := (h l List.mem_cons_self).exists_name_eq_cons
      have hne : c ≠ '\ufeff' := by
        rintro rfl
        exact absurd hc (by decide)
      simpa [Line.text, hname] using hne
  rw [ofText?, String.toList_join, List.flatMap_map, withoutMark_of_head?_ne hmark, hlines]
  simp [List.filterMap_map]

end Statement

theorem alterEntry_of_ne {key : Key} {es : List (Key × Item)} (h : ∀ e ∈ es, e.1.name ≠ key.name)
    (change : Option Item → Option Item) :
    alterEntry key change es = (change none).map fun item => es ++ [(key, item)] := by
  induction es with
  | nil => cases hnew : change none <;> simp [alterEntry, hnew]
  | cons e es ih =>
    have hne := h e List.mem_cons_self
    cases hnew : change none <;>
      simp [alterEntry, hne, hnew, ih fun e' he' => h e' (List.mem_cons_of_mem e he')]

namespace Draft

/-- An entry under a name that is new goes to the end. -/
theorem follow_entry_of_ne {es : List (Key × Item)} {e : Key × Item}
    (h : ∀ e' ∈ es, e'.1.name ≠ e.1.name) :
    follow ⟨⟨.header, none, es⟩, []⟩ (.entry ⟨[], e.1, e.2⟩) =
      some ⟨⟨.header, none, es ++ [e]⟩, []⟩ := by
  simp [follow, Table.changeAt, Table.addLine, Table.add, Table.insertNew, Table.alter,
    alterEntry_of_ne h, Table.extendTo]

theorem foldlM_follow_of_nodup {es es' : List (Key × Item)}
    (h : ((es ++ es').map (·.1.name)).Nodup) :
    (es'.map fun e => Statement.entry ⟨[], e.1, e.2⟩).foldlM follow ⟨⟨.header, none, es⟩, []⟩ =
      some ⟨⟨.header, none, es ++ es'⟩, []⟩ := by
  induction es' generalizing es with
  | nil => simp
  | cons e es' ih =>
    have hnew : ∀ e' ∈ es, e'.1.name ≠ e.1.name := by
      intro e' he'
      rw [List.map_append, List.nodup_append] at h
      exact h.2.2 _ (List.mem_map_of_mem he') _ (by simp)
    have happend : es ++ e :: es' = (es ++ [e]) ++ es' := by simp
    rw [happend] at h ⊢
    rw [List.map_cons, List.foldlM_cons, follow_entry_of_ne hnew]
    exact ih h

end Draft

namespace Table

/-- Every name in the table is there once. -/
def HasNoTwins (t : Table) : Prop := (t.entries.map (·.1.name)).Nodup

/-- The table has an entry for what each of the lines says, and no others. -/
structure IsOf (t : Table) (lines : List Line) : Prop where
  hasNoTwins : t.HasNoTwins
  exists_entry : ∀ l ∈ lines, ∃ e ∈ t.entries, l.Says e
  exists_line : ∀ e ∈ t.entries, ∃ l ∈ lines, l.Says e

/-- The table of the text of lines is that of the lines, if their names are different. -/
theorem ofText?_join {lines : List Line} (h : ∀ l ∈ lines, l.IsPlain)
    (hnames : (lines.map Line.name).Nodup) :
    ∃ t, ofText? (String.join (lines.map Line.text)) = some t ∧ t.IsOf lines := by
  obtain ⟨es, hsays, htext⟩ := Statement.ofText?_join h
  have hkeys : (es.map (·.1.name)).Nodup := by rwa [Line.map_name_of_says hsays]
  have hroot : (es.map fun e => Statement.entry ⟨[], e.1, e.2⟩).foldlM Draft.follow
      ⟨⟨.header, none, []⟩, []⟩ = some ⟨⟨.header, none, es⟩, []⟩ :=
    Draft.foldlM_follow_of_nodup hkeys
  refine ⟨⟨.header, none, es⟩, ?_, hkeys, exists_right_of_forall₂ hsays,
    exists_left_of_forall₂ hsays⟩
  simp [ofText?, htext, ofStatements?, Draft.empty, Table.empty, hroot]

end Table

end VhdlLayout.Toml
