/-!
# Rules of a grammar

A rule (`Rule`) takes what it describes from the front of a text. It gives what
it has understood and the text that is left, or nothing if the text does not
begin as described. Rules are joined one after the other and side by side by the
operators of the monad; of two alternatives the first one that applies is taken.

A rule that is repeated (`many`) is applied as long as it takes something, so
repeating a rule always comes to an end.

What each rule does to a text is said by a lemma on its `run`.
-/

namespace VhdlLayout.Toml

/-- A way to take something from the front of a text. -/
abbrev Rule := StateT (List Char) Option

namespace Rule

variable {α : Type}

@[simp]
theorem run_orElse (r r' : Rule α) (cs : List Char) :
    (r <|> r').run cs = (r.run cs).or (r'.run cs) := by
  change (r.run cs).orElse (fun _ => r'.run cs) = _
  cases r.run cs <;> rfl

@[simp]
theorem run_failure (cs : List Char) : (failure : Rule α).run cs = none := rfl

@[simp]
theorem run_optional (r : Rule α) (cs : List Char) :
    (optional r).run cs = some (match r.run cs with
      | some (a, rest) => (some a, rest)
      | none => (none, cs)) := by
  rw [optional, run_orElse, StateT.run_map]
  cases r.run cs <;> rfl

/-- Takes one character of a class. -/
def satisfying (p : Char → Bool) : Rule Char
  | [] => none
  | c :: cs => if p c then some (c, cs) else none

@[simp]
theorem run_satisfying_nil (p : Char → Bool) : (satisfying p).run [] = none := rfl

@[simp]
theorem run_satisfying_cons (p : Char → Bool) (c : Char) (cs : List Char) :
    (satisfying p).run (c :: cs) = if p c then some (c, cs) else none := rfl

/-- Takes what the rule takes and gives none of it. -/
def skip (rule : Rule α) : Rule Unit := do let _ ← rule

@[simp]
theorem run_skip (rule : Rule α) (cs : List Char) :
    (skip rule).run cs = (rule.run cs).map fun taken => ((), taken.2) := by
  simp only [skip, StateT.run_bind]
  cases rule.run cs <;> rfl

/-- Takes the given character. -/
def char (c : Char) : Rule Unit := skip (satisfying (· == c))

@[simp]
theorem run_char_nil (c : Char) : (char c).run [] = none := rfl

@[simp]
theorem run_char_cons (c d : Char) (cs : List Char) :
    (char c).run (d :: cs) = if d = c then some ((), cs) else none := by
  rw [char, run_skip, run_satisfying_cons]
  by_cases h : d = c <;> simp [h]

/-- Takes the given text. -/
def exactly (text : String) : Rule Unit := fun cs =>
  if text.toList.isPrefixOf cs then some ((), cs.drop text.length) else none

theorem run_exactly (text : String) (cs : List Char) :
    (exactly text).run cs =
      if text.toList.isPrefixOf cs then some ((), cs.drop text.length) else none := rfl

/-- Takes all characters of a class that come next. -/
def spanning (p : Char → Bool) : Rule (List Char) := fun cs =>
  some (cs.takeWhile p, cs.dropWhile p)

@[simp]
theorem run_spanning (p : Char → Bool) (cs : List Char) :
    (spanning p).run cs = some (cs.takeWhile p, cs.dropWhile p) := rfl

/-- Takes nothing and tells how many characters are left. -/
def left : Rule Nat := fun cs => some (cs.length, cs)

@[simp]
theorem run_left (cs : List Char) : left.run cs = some (cs.length, cs) := rfl

/-- What a rule takes when it is applied until it takes nothing more, and the text after that. -/
def manyFrom (rule : Rule α) (cs : List Char) : List α × List Char :=
  match rule.run cs with
  | none => ([], cs)
  | some (a, rest) =>
    if rest.length < cs.length then
      match manyFrom rule rest with
      | (as, rest') => (a :: as, rest')
    else ([], cs)
termination_by cs.length

theorem manyFrom_of_run {rule : Rule α} {cs rest : List Char} {a : α}
    (h : rule.run cs = some (a, rest)) (hlt : rest.length < cs.length) :
    manyFrom rule cs = (a :: (manyFrom rule rest).1, (manyFrom rule rest).2) := by
  rw [manyFrom, h]
  simp [hlt]

@[simp]
theorem manyFrom_nil (rule : Rule α) : manyFrom rule [] = ([], []) := by
  rw [manyFrom]
  split <;> simp

theorem manyFrom_of_run_eq_none {rule : Rule α} {cs : List Char} (h : rule.run cs = none) :
    manyFrom rule cs = ([], cs) := by
  rw [manyFrom, h]

/-- A rule that takes each of these characters alone, but not what follows them, takes just them. -/
theorem manyFrom_append {rule : Rule Char} {cs rest : List Char}
    (h : ∀ c ∈ cs, ∀ tail, rule.run (c :: tail) = some (c, tail)) (hrest : rule.run rest = none) :
    manyFrom rule (cs ++ rest) = (cs, rest) := by
  induction cs with
  | nil => exact manyFrom_of_run_eq_none hrest
  | cons c cs ih =>
    rw [List.cons_append, manyFrom_of_run (h c List.mem_cons_self _) (by simp),
      ih fun d hd => h d (List.mem_cons_of_mem c hd)]

/-- Applies a rule until it takes nothing more. -/
def many (rule : Rule α) : Rule (List α) := fun cs => some (manyFrom rule cs)

@[simp]
theorem run_many (rule : Rule α) (cs : List Char) :
    (many rule).run cs = some (manyFrom rule cs) := rfl

/-- Applies a rule once and then again after every `mark` that it can be applied after. Takes
nothing if the rule cannot be applied. -/
def separatedBy (mark : Char) (rule : Rule α) : Rule (List α) :=
  (do pure ((← rule) :: (← many (char mark *> rule)))) <|> pure []

/-- Takes what the rule takes, if the test holds of it. -/
def guarded (rule : Rule α) (test : α → Bool) : Rule α := do
  let a ← rule
  if test a then pure a else failure

@[simp]
theorem run_guarded (rule : Rule α) (test : α → Bool) (cs : List Char) :
    (guarded rule test).run cs = (rule.run cs).filter fun taken => test taken.1 := by
  simp only [guarded, StateT.run_bind]
  cases rule.run cs with
  | none => rfl
  | some taken => by_cases h : test taken.1 = true <;> simp [h, Option.filter]

end Rule

end VhdlLayout.Toml
