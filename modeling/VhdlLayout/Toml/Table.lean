import VhdlLayout.Toml.Basic

/-!
# Building tables

A table is built by adding entries under dotted names and by opening tables of
their own under it. Tables on the way that do not exist yet are made. No name may
be given twice, and some tables are closed:

* one between braces has all its entries there;
* one that has a header, or is on the way to one, is not added to by dotted names
  from another table.
-/

namespace VhdlLayout.Toml

/-- An item to be added to a table, with its name and the names on the way to it. -/
structure Entry where
  path : List Key
  key : Key
  item : Item

/-- A name that comes on the way to a table in the form `made` may lead through one in the form
`found`. -/
def Form.canPass (made found : Form) : Bool :=
  match made, found with
  | _, .inline => false
  | .dotted, .header => false
  | _, _ => true

/-- The entries with what the key stands for changed; the change is told what it has stood for. A
new key goes to the end. -/
def alterEntry (key : Key) (change : Option Item → Option Item) :
    List (Key × Item) → Option (List (Key × Item))
  | [] => do pure [(key, ← change none)]
  | (k, item) :: entries =>
    if k.name = key.name then do pure ((k, ← change (some item)) :: entries)
    else do pure ((k, item) :: (← alterEntry key change entries))

namespace Table

/-- A table without entries. -/
def empty (form : Form) (extent : Option Extent) : Table := ⟨form, extent, []⟩

/-- The table with what the key stands for changed. -/
def alter (t : Table) (key : Key) (change : Option Item → Option Item) : Option Table := do
  pure { t with entries := ← alterEntry key change t.entries }

/-- What the key stands for. -/
def find? (t : Table) (key : Key) : Option Item :=
  (t.entries.find? fun e => e.1.name == key.name).map (·.2)

/-- The tables with the last one changed. -/
def changeLast (change : Table → Option Table) (tables : List Table) : Option (List Table) := do
  pure (tables.dropLast ++ [← change (← tables.getLast?)])

/-- The table with the one at the end of the path changed. Tables on the way are made in the form
`made`. Where there are several tables of one name, the way leads through the last one. -/
def changeAt (made : Form) (change : Table → Option Table) : List Key → Table → Option Table
  | [], t => change t
  | key :: path, t => t.alter key fun
    | none => do pure (.table (← changeAt made change path (empty made none)))
    | some (.table inner) =>
      if made.canPass inner.form then do pure (.table (← changeAt made change path inner)) else none
    | some (.tables inner) => do pure (.tables (← changeLast (changeAt made change path) inner))
    | some _ => none

/-- The table with an entry under a key that has stood for nothing yet. Dotted names do not add to
tables that came about otherwise, and nothing else adds to those that they made. -/
def insertNew (e : Entry) (t : Table) : Option Table :=
  if (t.form = .dotted) = (e.path ≠ []) then
    t.alter e.key fun
      | none => some e.item
      | some _ => none
  else none

/-- The table with an entry added. -/
def add (t : Table) (e : Entry) : Option Table := changeAt .dotted (insertNew e) e.path t

/-- The table of the entries between braces. -/
def ofEntries? (es : List Entry) : Option Table := es.foldlM add (empty .inline none)

/-- The table with a table opened under the key. One that was only on the way to another is moved to
the end, with its entries. -/
def openTable (key : Key) (extent : Extent) (t : Table) : Option Table :=
  match t.find? key with
  | none => some { t with entries := t.entries ++ [(key, .table (empty .header (some extent)))] }
  | some (.table ⟨.implied, _, entries⟩) =>
    some { t with
      entries := (t.entries.filter fun e => e.1.name != key.name) ++
        [(key, .table ⟨.header, some extent, entries⟩)] }
  | some _ => none

/-- The table with one more table of the key's name. -/
def openAnother (key : Key) (extent : Extent) (t : Table) : Option Table :=
  t.alter key fun
    | none => some (.tables [empty .header (some extent)])
    | some (.tables tables) => some (.tables (tables ++ [empty .header (some extent)]))
    | some _ => none

/-- The table with a table opened by a header, which may allow for several of its name. -/
def openHeader (several : Bool) (key : Key) (extent : Extent) (t : Table) : Option Table :=
  if several then openAnother key extent t else openTable key extent t

/-- The table with its extent drawn out to the end of the item. -/
def extendTo (item : Item) (t : Table) : Table :=
  match t.extent, item.extent? with
  | some own, some other => { t with extent := some ⟨own.start, other.stop⟩ }
  | _, _ => t

/-- The table with an entry added on a line below its header. -/
def addLine (e : Entry) (t : Table) : Option Table := (t.add e).map (extendTo e.item)

end Table

end VhdlLayout.Toml
