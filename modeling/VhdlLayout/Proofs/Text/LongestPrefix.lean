import Mathlib

/-!
# Longest prefixes

What a reader takes off the front of a text is specified as the longest text of a
language that the text begins with (`IsLongestPrefix`). There is at most one
(`IsLongestPrefix.unique`). It is found piece by piece:

* a run of characters of one kind goes on to the first character that is of another
  kind (`takeWhile_run`), and what may follow a run in the language is looked for
  there, provided that it begins with another character (`IsLongestPrefix.run`);
* one of some marks stands in front (`IsLongestPrefix.mark`), or none does, and then
  nothing that begins with them (`not_isPrefix_mark`);
* of two languages, one is out of account if none of its texts is longer
  (`IsLongestPrefix.add_left`, `IsLongestPrefix.add_right`).
-/

namespace VhdlLayout

/-! ## Runs -/

section Run

variable {p : Char → Bool} {run run' rest rest' : List Char}

theorem takeWhile_run (hrun : ∀ c ∈ run, p c = true) (hrest : ∀ d ∈ rest.head?, p d = false) :
    (run ++ rest).takeWhile p = run := by
  rw [List.takeWhile_append_of_pos hrun]
  cases rest with
  | nil => exact List.append_nil run
  | cons d rest =>
    rw [List.takeWhile_cons_of_neg (Bool.eq_false_iff.1 (hrest d rfl)), List.append_nil]

theorem dropWhile_run (hrun : ∀ c ∈ run, p c = true) (hrest : ∀ d ∈ rest.head?, p d = false) :
    (run ++ rest).dropWhile p = rest := by
  rw [List.dropWhile_append_of_pos hrun]
  cases rest with
  | nil => rfl
  | cons d rest => exact List.dropWhile_cons_of_neg (Bool.eq_false_iff.1 (hrest d rfl))

theorem head?_dropWhile_eq_false (p : Char → Bool) (cs : List Char) :
    ∀ d ∈ (cs.dropWhile p).head?, p d = false := by
  intro d hd
  have := List.head?_dropWhile_not p cs
  rwa [Option.mem_def.1 hd] at this

/-- Where a run ends is where the first character stands that is none of it. -/
theorem run_append_inj (hrun : ∀ c ∈ run, p c = true) (hrest : ∀ d ∈ rest.head?, p d = false)
    (hrun' : ∀ c ∈ run', p c = true) (hrest' : ∀ d ∈ rest'.head?, p d = false)
    (h : run ++ rest = run' ++ rest') : run = run' ∧ rest = rest' := by
  have htaken := takeWhile_run hrun hrest
  have hleft := dropWhile_run hrun hrest
  rw [h] at htaken hleft
  exact ⟨htaken.symm.trans (takeWhile_run hrun' hrest'),
    hleft.symm.trans (dropWhile_run hrun' hrest')⟩

/-- A run in front is a part of the longest one. -/
theorem length_le_of_run_isPrefix (hrun' : ∀ c ∈ run', p c = true)
    (hrun : ∀ c ∈ run, p c = true) (hrest : ∀ d ∈ rest.head?, p d = false)
    (h : run' <+: run ++ rest) : run'.length ≤ run.length := by
  obtain ⟨tail, htail⟩ := h
  have htaken := takeWhile_run hrun hrest
  rw [← htail, List.takeWhile_append_of_pos hrun'] at htaken
  rw [← htaken, List.length_append]
  exact Nat.le_add_right _ _

end Run

/-! ## Longest prefixes -/

/-- The text begins with `p`, which is of the language, and with nothing of it that is longer. -/
structure IsLongestPrefix (L : Language Char) (p cs : List Char) : Prop where
  mem : p ∈ L
  isPrefix : p <+: cs
  length_le : ∀ q ∈ L, q <+: cs → q.length ≤ p.length

/-- The texts of one character that is among the given ones. -/
def oneOf (marks : List Char) : Language Char := {cs | ∃ c ∈ marks, cs = [c]}

/-- The texts of characters that have the property. -/
def runs (p : Char → Bool) : Language Char := {cs | ∀ c ∈ cs, p c = true}

/-- Each character that a text of the language begins with has the property. -/
def Begins (L : Language Char) (P : Char → Prop) : Prop := ∀ q ∈ L, ∀ c ∈ q.head?, P c

variable {L M T : Language Char} {P Q : Char → Prop} {a : Char} {marks p q cs rest : List Char}

namespace Begins

theorem one (P : Char → Prop) : Begins 1 P := by
  rintro _ rfl
  exact nofun

theorem mono (h : Begins L P) (hPQ : ∀ c, P c → Q c) : Begins L Q :=
  fun q hq c hc => hPQ c (h q hq c hc)

theorem add (hL : Begins L P) (hM : Begins M P) : Begins (L + M) P :=
  fun q hq => hq.elim (hL q) (hM q)

theorem mul (hL : Begins L P) (hM : Begins M P) : Begins (L * M) P := by
  intro q hq
  obtain ⟨x, hx, y, hy, rfl⟩ := Language.mem_mul.1 hq
  cases x with
  | nil => exact hM y hy
  | cons c x => exact hL (c :: x) hx

theorem mark (h : ∀ a ∈ marks, P a) : Begins (oneOf marks * L) P := by
  intro q hq
  obtain ⟨_, ⟨a, ha, rfl⟩, y, -, rfl⟩ := Language.mem_mul.1 hq
  rintro _ ⟨⟩
  exact h a ha

/-- Of a language whose texts begin otherwise only the empty text can stand in front. -/
theorem eq_nil (h : Begins L P) (hcs : ∀ c ∈ cs.head?, ¬ P c) (hq : q ∈ L) (hfront : q <+: cs) :
    q = [] := by
  cases q with
  | nil => rfl
  | cons c q =>
    obtain ⟨rest, rfl⟩ := hfront
    exact absurd (h _ hq c rfl) (hcs c rfl)

end Begins

namespace IsLongestPrefix

theorem unique (hp : IsLongestPrefix L p cs) (hq : IsLongestPrefix L q cs) : p = q :=
  (List.prefix_of_prefix_length_le hp.isPrefix hq.isPrefix
    (hq.length_le p hp.mem hp.isPrefix)).eq_of_length_le (hp.length_le q hq.mem hq.isPrefix)

theorem one (cs : List Char) : IsLongestPrefix 1 [] cs where
  mem := rfl
  isPrefix := List.nil_prefix
  length_le := by
    rintro _ rfl -
    exact Nat.le_refl _

theorem add_left (h : IsLongestPrefix L p cs)
    (hM : ∀ q ∈ M, q <+: cs → q.length ≤ p.length) : IsLongestPrefix (L + M) p cs where
  mem := .inl h.mem
  isPrefix := h.isPrefix
  length_le q hq hfront := hq.elim (fun hq => h.length_le q hq hfront) fun hq => hM q hq hfront

theorem add_right (h : IsLongestPrefix M p cs)
    (hL : ∀ q ∈ L, q <+: cs → q.length ≤ p.length) : IsLongestPrefix (L + M) p cs :=
  add_comm M L ▸ h.add_left hL

/-- If the texts of the other language begin otherwise, none of them is in front. -/
theorem add_left_of_begins (h : IsLongestPrefix L p cs) (hM : Begins M P)
    (hcs : ∀ c ∈ cs.head?, ¬ P c) : IsLongestPrefix (L + M) p cs :=
  h.add_left fun q hq hfront => by
    rw [hM.eq_nil hcs hq hfront]
    exact Nat.zero_le _

theorem add_right_of_begins (h : IsLongestPrefix M p cs) (hL : Begins L P)
    (hcs : ∀ c ∈ cs.head?, ¬ P c) : IsLongestPrefix (L + M) p cs :=
  add_comm M L ▸ h.add_left_of_begins hL hcs

/-- A text that may be left out. -/
theorem optional (h : IsLongestPrefix L p cs) : IsLongestPrefix (1 + L) p cs :=
  h.add_right fun q hq _ => by
    rw [(Language.mem_one q).1 hq]
    exact Nat.zero_le _

theorem mark (ha : a ∈ marks) (h : IsLongestPrefix L p cs) :
    IsLongestPrefix (oneOf marks * L) (a :: p) (a :: cs) where
  mem := Language.append_mem_mul (show [a] ∈ oneOf marks from ⟨a, ha, rfl⟩) h.mem
  isPrefix := (List.prefix_cons_inj a).2 h.isPrefix
  length_le q hq hfront := by
    obtain ⟨_, ⟨b, -, rfl⟩, y, hy, rfl⟩ := Language.mem_mul.1 hq
    obtain ⟨-, hfront⟩ := List.cons_prefix_cons.1 hfront
    exact Nat.succ_le_succ (h.length_le y hy hfront)

/-- A run goes on to the first character that is none of it, and there the rest is looked for. -/
theorem run {p : Char → Bool} {run rest t : List Char} (hL : ∀ r ∈ L, ∀ c ∈ r, p c = true)
    (hT : Begins T (p · = false)) (hrun : run ∈ L) (hrest : ∀ c ∈ rest.head?, p c = false)
    (h : IsLongestPrefix T t rest) : IsLongestPrefix (L * T) (run ++ t) (run ++ rest) where
  mem := Language.append_mem_mul hrun h.mem
  isPrefix := List.prefix_append_right_inj run |>.2 h.isPrefix
  length_le q hq hfront := by
    obtain ⟨r, hr, y, hy, rfl⟩ := Language.mem_mul.1 hq
    rw [List.length_append, List.length_append]
    cases y with
    | nil =>
      rw [List.append_nil] at hfront
      exact Nat.add_le_add (length_le_of_run_isPrefix (hL r hr) (hL run hrun) hrest hfront)
        (Nat.zero_le _)
    | cons c y =>
      -- The character behind the run is none of it, so the run has come to its end.
      obtain ⟨tail, htail⟩ := hfront
      rw [List.append_assoc] at htail
      have hend : ∀ d ∈ (c :: y ++ tail).head?, p d = false := hT (c :: y) hy
      obtain ⟨rfl, rfl⟩ := run_append_inj (hL r hr) hend (hL run hrun) hrest htail
      exact Nat.add_le_add_left (h.length_le (c :: y) hy ⟨tail, rfl⟩) _

/-- All characters that have the property are taken, and behind them the rest is looked for. -/
theorem runs_mul {p : Char → Bool} {t : List Char} (hT : Begins T (p · = false))
    (h : IsLongestPrefix T t (cs.dropWhile p)) :
    IsLongestPrefix (runs p * T) (cs.takeWhile p ++ t) cs := by
  have hrun : cs.takeWhile p ∈ runs p := fun c hc => List.mem_takeWhile_imp hc
  have hwhole : IsLongestPrefix (runs p * T) (cs.takeWhile p ++ t)
      (cs.takeWhile p ++ cs.dropWhile p) :=
    .run (fun _ hr => hr) hT hrun (head?_dropWhile_eq_false p cs) h
  rwa [List.takeWhile_append_dropWhile] at hwhole

theorem takeWhile (p : Char → Bool) (cs : List Char) :
    IsLongestPrefix (runs p) (cs.takeWhile p) cs := by
  have h := runs_mul (p := p) (.one _) (.one (cs.dropWhile p))
  rwa [mul_one, List.append_nil] at h

end IsLongestPrefix

/-- Nothing that begins with one of some marks stands in front if no mark does. -/
theorem not_isPrefix_mark (hcs : ∀ c ∈ cs.head?, c ∉ marks) (hq : q ∈ oneOf marks * L) :
    ¬ q <+: cs := by
  intro hfront
  have hnil := (Begins.mark fun a ha => ha).eq_nil (fun c hc hmem => hcs c hc hmem) hq hfront
  obtain ⟨_, ⟨a, -, rfl⟩, y, -, rfl⟩ := Language.mem_mul.1 hq
  cases hnil

end VhdlLayout
