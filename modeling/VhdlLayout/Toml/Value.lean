import VhdlLayout.Toml.Moment
import VhdlLayout.Toml.Number
import VhdlLayout.Toml.Quoted
import VhdlLayout.Toml.Table

/-!
# Values

How names, values and the entries of tables are written. An array may go over
several lines and may have a comma after its last item; a table between braces
may do neither. Both may stand within each other, but not deeper than `maxDepth`,
and a dotted name has at most so many parts.
-/

namespace VhdlLayout.Toml

/-- How deep arrays and tables may stand within each other, and how many parts a name may have. -/
def maxDepth : Nat := 79

/-- The characters of names that need no quotes. -/
def isNameChar (c : Char) : Bool := c.isAlphanum || c == '-' || c == '_'

namespace Rule

/-- Takes what the rule takes and tells where it stands. -/
def located {α : Type} (rule : Rule α) : Rule (α × Extent) := do
  let start ← left
  let a ← rule
  pure (a, ⟨start, ← left⟩)

@[simp]
theorem run_located {α : Type} (rule : Rule α) (cs : List Char) :
    (located rule).run cs = (rule.run cs).map fun taken =>
      ((taken.1, ⟨cs.length, taken.2.length⟩), taken.2) := by
  simp only [located, StateT.run_bind, run_left, Option.bind_eq_bind, Option.bind_some]
  cases rule.run cs <;> rfl

/-- Takes a name. -/
def name : Rule String :=
  quotedLine <|> String.ofList <$> guarded (spanning isNameChar) (!·.isEmpty)

/-- Takes one part of a dotted name. -/
def key : Rule Key := do
  blanks
  let (name, extent) ← located name
  blanks
  pure ⟨name, extent⟩

/-- Takes a dotted name and gives its last part apart from the others. -/
def dottedKey : Rule (List Key × Key) := do
  let keys ← separatedBy '.' key
  match keys.getLast? with
  | some last => if keys.length ≤ maxDepth then pure (keys.dropLast, last) else failure
  | none => failure

/-- Takes a value without parts. -/
def scalar : Rule Scalar :=
  .string <$> quoted <|> (do moment; pure .moment) <|> number <|>
    (do exactly "true"; pure (.boolean true)) <|> (do exactly "false"; pure (.boolean false))

/-- Takes a name, an equals sign and an item. -/
def entry (item : Rule Item) : Rule Entry := do
  let (path, key) ← dottedKey
  char '='
  blanks
  pure ⟨path, key, ← item⟩

/-- Takes the items between brackets. -/
def items (item : Rule Item) : Rule (List Item) := do
  char '['
  let items ← separatedBy ',' (gap *> item <* gap)
  if !items.isEmpty then skip (optional (char ','))
  gap
  char ']'
  pure items

/-- Takes the entries between braces. -/
def entries (item : Rule Item) : Rule Table := do
  char '\x7b'
  let es ← separatedBy ',' (entry item <* blanks)
  blanks
  char '\x7d'
  Table.ofEntries? es

/-- Takes a value without parts, as an item. -/
def scalarItem : Rule Item := do
  let (v, extent) ← located scalar
  pure (.scalar v extent)

/-- Takes an array, as an item. -/
def arrayItem (item : Rule Item) : Rule Item := do
  let (items, extent) ← located (items item)
  pure (.array items extent)

/-- Takes a table between braces, as an item. -/
def tableItem (item : Rule Item) : Rule Item := do
  let (table, extent) ← located (entries item)
  pure (.table { table with extent := some extent })

/-- Takes a value with its parts, which are not deeper than `depth`. -/
def value : (depth : Nat) → Rule Item
  | 0 => scalarItem
  | depth + 1 => arrayItem (value depth) <|> tableItem (value depth) <|> scalarItem

end Rule

end VhdlLayout.Toml
