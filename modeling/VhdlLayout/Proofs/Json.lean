import Mathlib
import VhdlLayout.Json

/-!
# JSON on one line

What is asked of a way of writing JSON (`Json.IsFaithful`): a value takes one line, and the line
tells it from all other values. Only values whose members are sorted by name (`Json.IsSorted`)
count, for the order of the members says nothing.

The program's own way is faithful (`Json.text_isFaithful`). Between quotes a new line is written
as an escape, and there is none anywhere else (`Json.newLine_not_mem_text`). A value is told from
its text, whatever stands behind it (`Json.text_isTold`): this goes by induction on the values,
with the rest of the text left open. Only a number has no mark that ends it, so what stands behind
a value must not begin with a digit (`Json.Ends`).
-/

namespace VhdlLayout.Json

/-- In all objects of the value the names of the members are different and in ascending order. -/
inductive IsSorted : Json → Prop
  | null : IsSorted .null
  | bool (b : Bool) : IsSorted (.bool b)
  | number (n : Nat) : IsSorted (.number n)
  | string (s : String) : IsSorted (.string s)
  | array {items : List Json} (h : ∀ j ∈ items, IsSorted j) : IsSorted (.array items)
  | object {members : List (String × Json)} (hnames : (members.map (·.1)).Pairwise (· < ·))
    (h : ∀ m ∈ members, IsSorted m.2) : IsSorted (.object members)

theorem IsSorted.object_of_map_eq {members : List (String × Json)} (names : List String)
    (hmembers : members.map (·.1) = names) (hnames : names.Pairwise (· < ·))
    (h : ∀ m ∈ members, m.2.IsSorted) : IsSorted (.object members) :=
  .object (hmembers ▸ hnames) h

/-- Values are written on one line, and so that they are told by it. -/
structure IsFaithful (write : Json → String) : Prop where
  injOn : Set.InjOn write {j | j.IsSorted}
  newLine_not_mem (j : Json) (h : j.IsSorted) : '\n' ∉ (write j).toList

/-! ## One line -/

theorem hexDigit_ne_newLine (n : Nat) : hexDigit n ≠ '\n' := by
  have digits : ∀ m < 16, (Nat.toDigits 16 m).headD '0' ≠ '\n' := by decide
  exact digits _ (Nat.mod_lt n (by decide))

theorem newLine_not_mem_escape (c : Char) : '\n' ∉ (escape c).toList := by
  fun_cases escape c with
  | case8 =>
    have first := hexDigit_ne_newLine (c.toNat / 16)
    have second := hexDigit_ne_newLine c.toNat
    simp [first.symm, second.symm]
  | case9 _ _ _ _ _ hc => simpa using Ne.symm hc
  | _ => simp

theorem newLine_not_mem_quote (text : String) : '\n' ∉ (quote text).toList := by
  rw [quote, String.toList_append, String.toList_append, String.toList_join]
  simp [newLine_not_mem_escape]

theorem newLine_not_mem_intercalate {sep : String} (hsep : '\n' ∉ sep.toList) {parts : List String}
    (h : ∀ s ∈ parts, '\n' ∉ s.toList) : '\n' ∉ (sep.intercalate parts).toList := by
  induction parts with
  | nil => simp
  | cons s parts ih =>
    obtain ⟨hs, hparts⟩ := List.forall_mem_cons.1 h
    rcases eq_or_ne parts [] with rfl | hne
    · rwa [String.intercalate_singleton]
    · rw [String.intercalate_cons_of_ne_nil hne, String.toList_append, String.toList_append,
        List.mem_append, List.mem_append, not_or, not_or]
      exact ⟨⟨hs, hsep⟩, ih hparts⟩

theorem newLine_not_mem_comma : '\n' ∉ ",".toList := by simp

mutual

theorem newLine_not_mem_text : (j : Json) → '\n' ∉ j.text.toList
  | .null => by simp [text]
  | .bool b => by cases b <;> decide +kernel
  | .number n => by
    intro h
    rw [text, Nat.toString_eq_ofList_toDigits, String.toList_ofList] at h
    cases Nat.isDigit_of_mem_toDigits (by decide) le_rfl h
  | .string s => newLine_not_mem_quote s
  | .array items => by
    have h := newLine_not_mem_intercalate newLine_not_mem_comma (newLine_not_mem_texts items)
    rw [text, String.toList_append, String.toList_append, List.mem_append, List.mem_append]
    simp only [h]
    simp
  | .object members => by
    have h := newLine_not_mem_intercalate newLine_not_mem_comma
      (newLine_not_mem_memberTexts members)
    rw [text, String.toList_append, String.toList_append, List.mem_append, List.mem_append]
    simp only [h]
    simp

theorem newLine_not_mem_texts : (items : List Json) → ∀ s ∈ texts items, '\n' ∉ s.toList
  | [] => List.forall_mem_nil _
  | j :: js => List.forall_mem_cons.2 ⟨newLine_not_mem_text j, newLine_not_mem_texts js⟩

theorem newLine_not_mem_memberTexts :
    (members : List (String × Json)) → ∀ s ∈ memberTexts members, '\n' ∉ s.toList
  | [] => List.forall_mem_nil _
  | (name, j) :: members => by
    refine List.forall_mem_cons.2 ⟨?_, newLine_not_mem_memberTexts members⟩
    rw [String.toList_append, String.toList_append]
    simp [newLine_not_mem_quote, newLine_not_mem_text j]

end

/-! ## Texts that tell values apart -/

/-- A number ends before these characters. -/
def Ends (cs : List Char) : Prop := ∀ c ∈ cs.head?, c.isDigit = false

theorem ends_cons {c : Char} (h : c.isDigit = false) (cs : List Char) : Ends (c :: cs) := by
  simpa [Ends] using h

/-- What is written for `a` is written for nothing else, whatever stands behind it. -/
def IsTold {α : Type} (write : α → String) (a : α) : Prop :=
  ∀ a' cs cs', Ends cs → Ends cs' → (write a).toList ++ cs = (write a').toList ++ cs' →
    a = a' ∧ cs = cs'

/-- The value of a digit below sixteen. -/
def hexValue (c : Char) : Nat := "0123456789abcdef".toList.idxOf c

/-- The character that is written at the start of the characters, and what is behind it. -/
def unescape? : List Char → Option (Char × List Char)
  | '\\' :: 'b' :: cs => some ('\x08', cs)
  | '\\' :: 't' :: cs => some ('\t', cs)
  | '\\' :: 'n' :: cs => some ('\n', cs)
  | '\\' :: 'f' :: cs => some ('\x0c', cs)
  | '\\' :: 'r' :: cs => some ('\r', cs)
  | '\\' :: 'u' :: _ :: _ :: a :: b :: cs =>
    some (Char.ofNat (16 * hexValue a + hexValue b), cs)
  | '\\' :: c :: cs => some (c, cs)
  | c :: cs => some (c, cs)
  | [] => none

theorem hexValue_hexDigit {n : Nat} (h : n < 32) :
    16 * hexValue (hexDigit (n / 16)) + hexValue (hexDigit n) = n := by
  have values : ∀ m < 32, 16 * hexValue (hexDigit (m / 16)) + hexValue (hexDigit m) = m := by
    decide
  exact values n h

theorem unescape?_escape (c : Char) (cs : List Char) :
    unescape? ((escape c).toList ++ cs) = some (c, cs) := by
  fun_cases escape c with
  | case8 _ _ _ _ _ _ _ _ hc =>
    -- A control: there are so few that the last two digits tell which one it is.
    have hlt : c.toNat < 32 := UInt32.lt_iff_toNat_lt.1 hc
    rw [String.toList_append, String.toList_ofList]
    simp [unescape?, hexValue_hexDigit hlt]
  | case9 =>
    -- The character stands for itself, and is no backslash.
    rw [Char.toString_eq_singleton, String.toList_singleton, List.singleton_append]
    unfold unescape?
    split <;> simp_all
  | _ => rfl

/-- An escape is told from others, whatever stands behind it. -/
theorem escape_append_injective {c c' : Char} {cs cs' : List Char}
    (h : (escape c).toList ++ cs = (escape c').toList ++ cs') : c = c' ∧ cs = cs' := by
  have hsome := congrArg unescape? h
  rw [unescape?_escape, unescape?_escape] at hsome
  simpa using hsome

theorem exists_escape_eq_cons (c : Char) : ∃ d ds, (escape c).toList = d :: ds ∧ d ≠ '"' := by
  fun_cases escape c with
  | case8 => exact ⟨'\\', _, by rw [String.toList_append]; rfl, by decide⟩
  | case9 => exact ⟨c, [], by simp, by assumption⟩
  | _ => exact ⟨'\\', _, rfl, by decide⟩

/-- The characters as they are written between quotes. -/
def escapes (cs : List Char) : List Char := cs.flatMap fun c => (escape c).toList

theorem escapes_cons (c : Char) (cs : List Char) :
    escapes (c :: cs) = (escape c).toList ++ escapes cs := List.flatMap_cons

theorem escapes_append_quote_injective {s s' cs cs' : List Char}
    (h : escapes s ++ '"' :: cs = escapes s' ++ '"' :: cs') : s = s' ∧ cs = cs' := by
  induction s generalizing s' with
  | nil =>
    cases s' with
    | nil => simpa [escapes] using h
    | cons c' s' =>
      obtain ⟨d, ds, hd, hne⟩ := exists_escape_eq_cons c'
      rw [escapes_cons, hd] at h
      exact absurd (List.cons.inj h).1.symm hne
  | cons c s ih =>
    cases s' with
    | nil =>
      obtain ⟨d, ds, hd, hne⟩ := exists_escape_eq_cons c
      rw [escapes_cons, hd] at h
      exact absurd (List.cons.inj h).1 hne
    | cons c' s' =>
      -- What stands behind the first escape is a shorter text of the same form.
      rw [escapes_cons, escapes_cons, List.append_assoc, List.append_assoc] at h
      obtain ⟨rfl, hrest⟩ := escape_append_injective h
      obtain ⟨rfl, rfl⟩ := ih hrest
      exact ⟨rfl, rfl⟩

theorem toList_quote (s : String) : (quote s).toList = '"' :: (escapes s.toList ++ ['"']) := by
  simp [quote, escapes, String.toList_join, List.flatMap_map]

theorem quote_isTold (s : String) : IsTold quote s := by
  intro s' cs cs' _ _ h
  rw [toList_quote, toList_quote, List.cons_append, List.cons_append, List.append_assoc,
    List.append_assoc] at h
  obtain ⟨hs, hcs⟩ := escapes_append_quote_injective (List.cons.inj h).2
  exact ⟨String.toList_injective hs, hcs⟩

theorem takeWhile_isDigit_toDigits_append {cs : List Char} (h : Ends cs) (n : Nat) :
    (Nat.toDigits 10 n ++ cs).takeWhile Char.isDigit = Nat.toDigits 10 n := by
  rw [List.takeWhile_append_of_pos fun c hc => Nat.isDigit_of_mem_toDigits (by decide) le_rfl hc]
  cases cs with
  | nil => simp
  | cons c cs => simp [h c rfl]

theorem number_isTold (n : Nat) : IsTold (toString : Nat → String) n := by
  intro n' cs cs' hcs hcs' h
  simp only [Nat.toString_eq_ofList_toDigits, String.toList_ofList] at h
  -- Neither rest begins with a digit, so both numbers end where the digits end.
  have hdigits := congrArg (List.takeWhile Char.isDigit) h
  rw [takeWhile_isDigit_toDigits_append hcs, takeWhile_isDigit_toDigits_append hcs'] at hdigits
  rw [hdigits] at h
  have hn := congrArg (Nat.ofDigitChars 10 · 0) hdigits
  simp only [Nat.ofDigitChars_ten_toDigits] at hn
  exact ⟨hn, List.append_cancel_left h⟩

/-! ## Lists -/

section

variable {α : Type} {write : α → String} {close : Char}

/-- The values that follow the first one, each behind a comma. -/
def others (write : α → String) (as : List α) : List Char :=
  as.flatMap fun a => ',' :: (write a).toList

theorem others_cons (a : α) (as : List α) :
    others write (a :: as) = ',' :: ((write a).toList ++ others write as) := by
  rw [others, List.flatMap_cons, List.cons_append, others]

theorem ends_others_append (hclose : close.isDigit = false) (as : List α) (cs : List Char) :
    Ends (others write as ++ close :: cs) := by
  cases as with
  | nil => exact ends_cons hclose cs
  | cons a as =>
    rw [others_cons]
    exact ends_cons (by decide) _

theorem others_append_injective (hclose : close.isDigit = false) (hcomma : close ≠ ',')
    {as as' : List α} (h : ∀ a ∈ as, IsTold write a) {cs cs' : List Char}
    (heq : others write as ++ close :: cs = others write as' ++ close :: cs') :
    as = as' ∧ cs = cs' := by
  induction as generalizing as' with
  | nil =>
    cases as' with
    | nil => simpa [others] using heq
    | cons a' as' =>
      rw [others_cons] at heq
      exact absurd (List.cons.inj heq).1 hcomma
  | cons a as ih =>
    cases as' with
    | nil =>
      rw [others_cons] at heq
      exact absurd (List.cons.inj heq).1.symm hcomma
    | cons a' as' =>
      rw [List.forall_mem_cons] at h
      rw [others_cons, others_cons, List.cons_append, List.cons_append, List.append_assoc,
        List.append_assoc] at heq
      obtain ⟨rfl, hrest⟩ := h.1 a' _ _ (ends_others_append hclose as cs)
        (ends_others_append hclose as' cs') (List.cons.inj heq).2
      obtain ⟨rfl, rfl⟩ := ih h.2 hrest
      exact ⟨rfl, rfl⟩

theorem toList_intercalate_comma (a : α) (as : List α) :
    (",".intercalate ((a :: as).map write)).toList = (write a).toList ++ others write as := by
  induction as generalizing a with
  | nil => simp [others]
  | cons b bs ih =>
    rw [List.map_cons, String.intercalate_cons_of_ne_nil (by simp), String.toList_append,
      String.toList_append, ih, others_cons]
    simp

/-- Values with commas between them are told up to the mark that ends them, if each of them is told
and does not begin with that mark. -/
theorem intercalate_append_injective (hclose : close.isDigit = false) (hcomma : close ≠ ',')
    (hfirst : ∀ a, ∃ c ds, (write a).toList = c :: ds ∧ c ≠ close) {as as' : List α}
    (h : ∀ a ∈ as, IsTold write a) {cs cs' : List Char}
    (heq : (",".intercalate (as.map write)).toList ++ close :: cs =
      (",".intercalate (as'.map write)).toList ++ close :: cs') : as = as' ∧ cs = cs' := by
  cases as with
  | nil =>
    cases as' with
    | nil => simpa using heq
    | cons a' as' =>
      obtain ⟨c, ds, ha, hne⟩ := hfirst a'
      rw [toList_intercalate_comma, ha] at heq
      exact absurd (List.cons.inj heq).1.symm hne
  | cons a as =>
    cases as' with
    | nil =>
      obtain ⟨c, ds, ha, hne⟩ := hfirst a
      rw [toList_intercalate_comma, ha] at heq
      exact absurd (List.cons.inj heq).1 hne
    | cons a' as' =>
      rw [List.forall_mem_cons] at h
      rw [toList_intercalate_comma, toList_intercalate_comma, List.append_assoc,
        List.append_assoc] at heq
      obtain ⟨rfl, hrest⟩ := h.1 a' _ _ (ends_others_append hclose as cs)
        (ends_others_append hclose as' cs') heq
      obtain ⟨rfl, rfl⟩ := others_append_injective hclose hcomma h.2 hrest
      exact ⟨rfl, rfl⟩

end

/-! ## Values -/

/-- The text of a value of that kind begins with the character. -/
def Opens : Json → Char → Prop
  | .null, c => c = 'n'
  | .bool true, c => c = 't'
  | .bool false, c => c = 'f'
  | .number _, c => c.isDigit
  | .string _, c => c = '"'
  | .array _, c => c = '['
  | .object _, c => c = '\x7b'

theorem exists_text_eq_cons (j : Json) : ∃ c cs, j.text.toList = c :: cs ∧ j.Opens c := by
  cases j with
  | null => exact ⟨'n', _, rfl, rfl⟩
  | bool b => cases b <;> exact ⟨_, _, rfl, rfl⟩
  | number n =>
    rw [text, Nat.toString_eq_ofList_toDigits, String.toList_ofList]
    obtain ⟨c, cs, h⟩ := List.exists_cons_of_ne_nil (Nat.toDigits_ne_nil (b := 10) (n := n))
    refine ⟨c, cs, h, ?_⟩
    exact Nat.isDigit_of_mem_toDigits (by decide) le_rfl (h ▸ List.mem_cons_self)
  | string s => exact ⟨_, _, toList_quote s, rfl⟩
  | array items =>
    exact ⟨'[', _, by rw [text, String.toList_append, String.toList_append]; rfl, rfl⟩
  | object members =>
    exact ⟨'\x7b', _, by rw [text, String.toList_append, String.toList_append]; rfl, rfl⟩

/-- The values are of one kind, and the same if there is little to choose. -/
inductive IsAkin : Json → Json → Prop
  | null : IsAkin .null .null
  | bool (b : Bool) : IsAkin (.bool b) (.bool b)
  | number (n n' : Nat) : IsAkin (.number n) (.number n')
  | string (s s' : String) : IsAkin (.string s) (.string s')
  | array (items items' : List Json) : IsAkin (.array items) (.array items')
  | object (members members' : List (String × Json)) : IsAkin (.object members) (.object members')

theorem isAkin_of_opens {j j' : Json} {c : Char} (h : j.Opens c) (h' : j'.Opens c) :
    j.IsAkin j' := by
  rcases j with _ | (_ | _) | _ | _ | _ | _ <;> rcases j' with _ | (_ | _) | _ | _ | _ | _ <;>
    first
    | constructor
    | (simp only [Opens] at h h'; subst h; simp at h')
    | (simp only [Opens] at h h'; subst h'; simp at h)

/-- Values whose texts begin alike are of one kind. -/
theorem isAkin_of_append_eq {j j' : Json} {cs cs' : List Char}
    (h : j.text.toList ++ cs = j'.text.toList ++ cs') : j.IsAkin j' := by
  obtain ⟨c, ds, hj, hc⟩ := exists_text_eq_cons j
  obtain ⟨c', ds', hj', hc'⟩ := exists_text_eq_cons j'
  rw [hj, hj'] at h
  exact isAkin_of_opens hc ((List.cons.inj h).1 ▸ hc')

/-- A member as it is written. -/
def memberText (m : String × Json) : String := quote m.1 ++ ":" ++ m.2.text

theorem texts_eq_map (items : List Json) : texts items = items.map text := by
  induction items with
  | nil => rfl
  | cons j js ih => rw [texts, ih, List.map_cons]

theorem memberTexts_eq_map (members : List (String × Json)) :
    memberTexts members = members.map memberText := by
  induction members with
  | nil => rfl
  | cons m members ih => rw [memberTexts, ih, List.map_cons, memberText]

theorem memberText_isTold {m : String × Json} (h : IsTold text m.2) : IsTold memberText m := by
  obtain ⟨name, j⟩ := m
  intro ⟨name', j'⟩ cs cs' hcs hcs' heq
  have hcolon (ds : List Char) : Ends (":".toList ++ ds) := ends_cons (c := ':') (by decide) ds
  simp only [memberText, String.toList_append, List.append_assoc] at heq
  obtain ⟨rfl, hrest⟩ := quote_isTold name name' _ _ (hcolon _) (hcolon _) heq
  obtain ⟨rfl, rfl⟩ := h j' _ _ hcs hcs' (List.append_cancel_left hrest)
  exact ⟨rfl, rfl⟩

theorem toList_text_array (items : List Json) (cs : List Char) :
    (array items).text.toList ++ cs =
      '[' :: ((",".intercalate (items.map text)).toList ++ ']' :: cs) := by
  rw [text, texts_eq_map, String.toList_append, String.toList_append, List.append_assoc,
    List.append_assoc]
  rfl

theorem toList_text_object (members : List (String × Json)) (cs : List Char) :
    (object members).text.toList ++ cs =
      '\x7b' :: ((",".intercalate (members.map memberText)).toList ++ '\x7d' :: cs) := by
  rw [text, memberTexts_eq_map, String.toList_append, String.toList_append, List.append_assoc,
    List.append_assoc]
  rfl

theorem exists_text_eq_cons_ne (j : Json) : ∃ c cs, j.text.toList = c :: cs ∧ c ≠ ']' := by
  obtain ⟨c, cs, hj, hc⟩ := exists_text_eq_cons j
  refine ⟨c, cs, hj, ?_⟩
  rintro rfl
  rcases j with _ | (_ | _) | _ | _ | _ | _ <;> simp [Opens] at hc

theorem exists_memberText_eq_cons_ne (m : String × Json) :
    ∃ c cs, (memberText m).toList = c :: cs ∧ c ≠ '\x7d' :=
  ⟨'"', _, by rw [memberText, String.toList_append, String.toList_append, toList_quote]; rfl,
    by decide⟩

-- By induction on the values, for all that may stand behind them: behind a part of an array or of
-- an object there is a comma or the closing bracket, and never a digit.
mutual

/-- A value is told by its text. -/
theorem text_isTold : (j : Json) → IsTold text j
  | .null => by
    intro j' cs cs' _ _ heq
    cases isAkin_of_append_eq heq
    exact ⟨rfl, List.append_cancel_left heq⟩
  | .bool b => by
    intro j' cs cs' _ _ heq
    cases isAkin_of_append_eq heq
    exact ⟨rfl, List.append_cancel_left heq⟩
  | .number n => by
    intro j' cs cs' hcs hcs' heq
    cases isAkin_of_append_eq heq with
    | number _ n' =>
      obtain ⟨rfl, rfl⟩ := number_isTold n n' cs cs' hcs hcs' heq
      exact ⟨rfl, rfl⟩
  | .string s => by
    intro j' cs cs' hcs hcs' heq
    cases isAkin_of_append_eq heq with
    | string _ s' =>
      obtain ⟨rfl, rfl⟩ := quote_isTold s s' cs cs' hcs hcs' heq
      exact ⟨rfl, rfl⟩
  | .array items => by
    intro j' cs cs' _ _ heq
    cases isAkin_of_append_eq heq with
    | array _ items' =>
      rw [toList_text_array, toList_text_array] at heq
      obtain ⟨rfl, rfl⟩ := intercalate_append_injective (by decide) (by decide)
        exists_text_eq_cons_ne (text_isTold_of_mem items) (List.cons.inj heq).2
      exact ⟨rfl, rfl⟩
  | .object members => by
    intro j' cs cs' _ _ heq
    cases isAkin_of_append_eq heq with
    | object _ members' =>
      rw [toList_text_object, toList_text_object] at heq
      obtain ⟨rfl, rfl⟩ := intercalate_append_injective (by decide) (by decide)
        exists_memberText_eq_cons_ne (memberText_isTold_of_mem members) (List.cons.inj heq).2
      exact ⟨rfl, rfl⟩

theorem text_isTold_of_mem : (items : List Json) → ∀ j ∈ items, IsTold text j
  | [] => List.forall_mem_nil _
  | j :: js => List.forall_mem_cons.2 ⟨text_isTold j, text_isTold_of_mem js⟩

theorem memberText_isTold_of_mem :
    (members : List (String × Json)) → ∀ m ∈ members, IsTold memberText m
  | [] => List.forall_mem_nil _
  | (_, j) :: members =>
    List.forall_mem_cons.2 ⟨memberText_isTold (text_isTold j), memberText_isTold_of_mem members⟩

end

theorem text_injective : Function.Injective text := by
  intro j j' h
  exact (text_isTold j j' [] [] (by simp [Ends]) (by simp [Ends]) (by rw [h])).1

end VhdlLayout.Json
