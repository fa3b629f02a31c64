import VhdlLayout.Number.Binary64

/-!
# Settings in TOML

What a text of settings says: a table of named items, in the order in which they
were begun. An item is a plain value, an array, a table or a list of tables. Items
know where they stand in the text (`Extent`), for whoever has to complain about
them. Tables also know how they came about (`Form`), since that decides whether
later parts of the text may add to them.
-/

namespace VhdlLayout.Toml

/-- A part of a text, told by how many characters are left at its start and behind it. -/
structure Extent where
  start : Nat
  stop : Nat
deriving DecidableEq, Repr

/-- A name and where it stands. -/
structure Key where
  name : String
  extent : Extent
deriving DecidableEq, Repr

/-- A value without parts. -/
inductive Scalar where
  | string (text : String)
  | integer (value : Int)
  | float (value : Binary64)
  | boolean (value : Bool)
  /-- A date, a time of the day or both. Which one it is makes no difference here. -/
  | moment
deriving DecidableEq, Repr

/-- How a table came about. -/
inductive Form where
  /-- It is written between braces. -/
  | inline
  /-- It has a header of its own, or is the whole text. -/
  | header
  /-- It is named on the way to the table of some header. -/
  | implied
  /-- It is named on the way to the key of some item. -/
  | dotted
deriving DecidableEq, Repr

mutual

/-- Named items. -/
structure Table where
  form : Form
  /-- Where the table stands, if it is written in one place. -/
  extent : Option Extent
  entries : List (Key × Item)

/-- What a name stands for. -/
inductive Item where
  | scalar (value : Scalar) (extent : Extent)
  | array (items : List Item) (extent : Extent)
  | table (table : Table)
  /-- Tables that have a header each and share their name. -/
  | tables (tables : List Table)

end

/-- Where the tables stand, from the start of the first to the end of the last. -/
def extentOfAll (tables : List Table) : Option Extent := do
  let first ← (← tables.head?).extent
  let last ← (← tables.getLast?).extent
  pure ⟨first.start, last.stop⟩

/-- Where the item stands, if it stands in one place. -/
def Item.extent? : Item → Option Extent
  | .scalar _ extent | .array _ extent => some extent
  | .table t => t.extent
  | .tables ts => extentOfAll ts

end VhdlLayout.Toml
