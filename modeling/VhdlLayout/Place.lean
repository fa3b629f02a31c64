/-!
# Places

Where the names of a path lead. A place is given by the names that lead to it from
the working directory, after single dots and the double dots that can be undone
have been left out (`Place.step`); double dots remain only at the front, where
they lead out of the working directory. A path that begins with a slash starts
at the root of all directories, which is a place with a name of its own.
-/

namespace VhdlLayout

/-- The names that lead to a place. -/
abbrev Place := List String

namespace Place

/-- The working directory. -/
def here : Place := []

/-- The root of all directories. -/
def root : Place := ["/"]

/-- The place is the root, the working directory or a directory that holds it. -/
def isOutermost (p : Place) : Bool := p == root || p.all (· == "..")

/-- The directory that holds the place; the root holds itself. -/
def parent (p : Place) : Place :=
  if p = root then root else if p.isOutermost then p ++ [".."] else p.dropLast

/-- The place that a name leads to from a directory. -/
def step (p : Place) (name : String) : Place :=
  if name = "." then p else if name = ".." then p.parent else p ++ [name]

end Place

namespace Path

/-- The names in the text of a path. Slashes next to each other have no name between them. -/
def names (path : String) : List String := (path.splitOn "/").filter (· != "")

/-- The place that the path starts from. -/
def origin (path : String) : Place := if path.startsWith "/" then Place.root else Place.here

/-- The text of the path ends with a slash, so it can only mean a directory. -/
def endsOpen (path : String) : Bool := path.endsWith "/"

/-- The place that the path leads to if every name in it stands for what it should. -/
def place (path : String) : Place := (names path).foldl Place.step (origin path)

/-- The name is longer than any name can be, which is 255 bytes. -/
def isLongName (name : String) : Bool := 255 < name.utf8ByteSize

/-- The path is longer than any path can be, which is 4095 bytes. -/
def isLong (path : String) : Bool := 4095 < path.utf8ByteSize

end Path

end VhdlLayout
