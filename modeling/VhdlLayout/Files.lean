import VhdlLayout.Place

/-!
# Files

A store of files in and around a working directory, with what may go wrong when a
file is read or written. A path is followed name by name: every name but the
last must lead to a directory (`Files.enter`), and so must the last one if a
slash follows it. The first name that leads nowhere decides what is wrong.
-/

namespace VhdlLayout

/-- Why a file cannot be read or written. -/
inductive FileError where
  /-- Nothing has that name. -/
  | notFound
  /-- A directory has that name. -/
  | isDirectory
  /-- A file stands where the path goes on. -/
  | notDirectory
  /-- A name, or the path as a whole, is longer than it can be. -/
  | nameTooLong
  /-- The path holds the character that ends paths. -/
  | nulInPath
  /-- The bytes of the file are no text. -/
  | notText
  /-- Anything else, in the words of the operating system. -/
  | other (reason : String)
deriving DecidableEq, Repr

/-- The error in the words of the operating system. -/
def FileError.message : FileError → String
  | .notFound => "No such file or directory (os error 2)"
  | .isDirectory => "Is a directory (os error 21)"
  | .notDirectory => "Not a directory (os error 20)"
  | .nameTooLong => "File name too long (os error 36)"
  | .nulInPath => "file name contained an unexpected NUL byte"
  | .notText => "stream did not contain valid UTF-8"
  | .other reason => reason

/-- What a path leads to. -/
inductive Entry where
  | text (content : String)
  /-- A file whose bytes are no text. -/
  | binary
  | directory
deriving DecidableEq, Repr

/-- A file with the given bytes. -/
def Entry.ofBytes (bytes : ByteArray) : Entry :=
  match String.fromUTF8? bytes with
  | some content => .text content
  | none => .binary

/-- What there is, by place. -/
structure Files where
  entries : List (Place × Entry) := []
deriving DecidableEq, Repr

namespace Files

/-- What is at a place. A directory needs no entry of its own if there is one below it. -/
def find? (files : Files) (place : Place) : Option Entry :=
  match files.entries.lookup place with
  | some e => some e
  | none =>
    if place.isOutermost || files.entries.any fun e => place.isPrefixOf e.1 then some .directory
    else none

/-- The directory that a name leads to from another one. -/
def enter (files : Files) (place : Place) (name : String) : Except FileError Place :=
  if Path.isLongName name then .error .nameTooLong
  else
    match files.find? (place.step name) with
    | some .directory => .ok (place.step name)
    | some _ => .error .notDirectory
    | none => .error .notFound

/-- The directory that all names of the path but the last one lead to, and the last one. A path
without names means the directory that it starts from. -/
def approach (files : Files) (path : String) : Except FileError (Place × String) :=
  if path.toList.contains '\x00' then .error .nulInPath
  else if path = "" then .error .notFound
  else if Path.isLong path then .error .nameTooLong
  else do
    let place ← (Path.names path).dropLast.foldlM files.enter (Path.origin path)
    pure (place, (Path.names path).getLastD ".")

/-- The text of a file. -/
def read (files : Files) (path : String) : Except FileError String := do
  let (place, name) ← files.approach path
  if Path.isLongName name then .error .nameTooLong
  else
    match files.find? (place.step name) with
    | none => .error .notFound
    | some .directory => .error .isDirectory
    | some e =>
      if Path.endsOpen path then .error .notDirectory
      else
        match e with
        | .text content => .ok content
        | _ => .error .notText

/-- The store with an entry at the given place. -/
def insert (files : Files) (place : Place) (e : Entry) : Files :=
  ⟨(place, e) :: files.entries.filter (·.1 != place)⟩

/-- The store after a text has been written to a file, which is made if there is none. -/
def write (files : Files) (path content : String) : Except FileError Files := do
  let (place, name) ← files.approach path
  if Path.endsOpen path then .error .isDirectory
  else if Path.isLongName name then .error .nameTooLong
  else if files.find? (place.step name) == some .directory then .error .isDirectory
  else .ok (files.insert (place.step name) (.text content))

end Files

end VhdlLayout
