import VhdlLayout.Toml.Value

/-!
# Texts of settings

A text is read line by line. What a line says (`Statement`) either opens a table
or adds an entry to the table opened last. The table of the whole text is then
built from these statements in order (`Table.ofStatements?`). A text that breaks
any rule is refused as a whole (`Table.ofText?`).
-/

namespace VhdlLayout.Toml

/-- What a line says. -/
inductive Statement where
  /-- A table is opened, which may be one of several of its name. -/
  | header (path : List Key) (key : Key) (extent : Extent) (several : Bool)
  | entry (entry : Entry)

namespace Rule

/-- Takes the name of a table between brackets. -/
def bracketed : Rule (List Key × Key) := char '[' *> dottedKey <* char ']'

/-- Takes the header of a table. -/
def header : Rule Statement := do
  let ((several, path, key), extent) ← located <|
    (do pure (true, ← char '[' *> bracketed <* char ']')) <|> (do pure (false, ← bracketed))
  pure (.header path key extent several)

/-- Takes a line. -/
def statementLine : Rule (Option Statement) := do
  blanks
  let statement ← optional (header <|> .entry <$> entry (value maxDepth))
  restOfLine
  pure statement

end Rule

namespace Statement

/-- The characters of a text without the mark of the order of bytes that may stand in front. -/
def withoutMark : List Char → List Char
  | '\ufeff' :: cs => cs
  | cs => cs

/-- The statements of a text. -/
def ofText? (text : String) : Option (List Statement) :=
  match Rule.manyFrom Rule.statementLine (withoutMark text.toList) with
  | (statements, []) => some (statements.filterMap id)
  | _ => none

end Statement

/-- A table that is being built. -/
structure Draft where
  root : Table
  /-- The way to the table that entries are added to. -/
  path : List Key

namespace Draft

/-- A text of which nothing has been read. -/
def empty : Draft := ⟨Table.empty .header none, []⟩

/-- The draft after one more statement. -/
def follow (d : Draft) : Statement → Option Draft
  | .header path key extent several => do
    pure ⟨← Table.changeAt .implied (Table.openHeader several key extent) path d.root,
      path ++ [key]⟩
  | .entry e => do pure ⟨← Table.changeAt .implied (Table.addLine e) d.path d.root, d.path⟩

end Draft

namespace Table

/-- The table that the statements describe. -/
def ofStatements? (statements : List Statement) : Option Table := do
  pure (← statements.foldlM Draft.follow Draft.empty).root

/-- The table that a text describes. -/
def ofText? (text : String) : Option Table := do
  ofStatements? (← Statement.ofText? text)

end Table

end VhdlLayout.Toml
