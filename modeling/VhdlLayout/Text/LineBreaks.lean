/-!
# Text broken into lines

A text cut where it would go on in another line when it is shown: at every line
feed, and at a carriage return that stands before one. The characters that end a
line are left out. A carriage return elsewhere ends no line.
-/

namespace VhdlLayout

/-- The lines among the characters; at least one, which may be empty. -/
def lineBreaks : List Char → List (List Char)
  | [] => [[]]
  | '\n' :: cs => [] :: lineBreaks cs
  | '\r' :: '\n' :: cs => [] :: lineBreaks cs
  | c :: cs =>
    match lineBreaks cs with
    | l :: ls => (c :: l) :: ls
    | [] => [[c]]

/-- The lines of a text. -/
def textLines (text : String) : List String := (lineBreaks text.toList).map String.ofList

end VhdlLayout
