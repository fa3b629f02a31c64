/-!
# Delimiters

The marks that separate and join the words of a program, of one to three
characters. Where several spellings begin alike the longest one is read
(`Delimiter.read?`): the table `Delimiter.spellings` lists longer spellings
before shorter ones, and its first entry that fits is taken.

The tick is missing from the table: it may also open a character literal, which
the text that follows does not tell alone.
-/

namespace VhdlLayout

/-- A mark that stands by itself. -/
inductive Delimiter where
  | ampersand | tick | lparen | rparen | lbracket | rbracket | star | plus | comma | minus | dot
  | slash | colon | semicolon | lt | eq | gt | bar | at_ | caret | question
  | arrow | doubleStar | varAssign | notEq | gtEq | ltEq | diamond | condition
  | matchEq | matchNotEq | matchLt | matchLtEq | matchGt | matchGtEq | doubleLt | doubleGt
deriving DecidableEq, Repr

namespace Delimiter

/-- The name of the delimiter as a kind of token. -/
def name : Delimiter → String
  | .ampersand => "Ampersand"
  | .tick => "Tick"
  | .lparen => "LParen"
  | .rparen => "RParen"
  | .lbracket => "LBracket"
  | .rbracket => "RBracket"
  | .star => "Star"
  | .plus => "Plus"
  | .comma => "Comma"
  | .minus => "Minus"
  | .dot => "Dot"
  | .slash => "Slash"
  | .colon => "Colon"
  | .semicolon => "Semicolon"
  | .lt => "Lt"
  | .eq => "Eq"
  | .gt => "Gt"
  | .bar => "Bar"
  | .at_ => "At"
  | .caret => "Caret"
  | .question => "Question"
  | .arrow => "Arrow"
  | .doubleStar => "DoubleStar"
  | .varAssign => "VarAssign"
  | .notEq => "NotEq"
  | .gtEq => "GtEq"
  | .ltEq => "LtEq"
  | .diamond => "Diamond"
  | .condition => "Condition"
  | .matchEq => "MatchEq"
  | .matchNotEq => "MatchNotEq"
  | .matchLt => "MatchLt"
  | .matchLtEq => "MatchLtEq"
  | .matchGt => "MatchGt"
  | .matchGtEq => "MatchGtEq"
  | .doubleLt => "DoubleLt"
  | .doubleGt => "DoubleGt"

/-- The spellings of the delimiters, longer ones first. The bar has a replacement character. -/
def spellings : List (List Char × Delimiter) := [
  (['?', '/', '='], matchNotEq), (['?', '<', '='], matchLtEq), (['?', '>', '='], matchGtEq),
  (['=', '>'], arrow), (['*', '*'], doubleStar), ([':', '='], varAssign), (['/', '='], notEq),
  (['>', '='], gtEq), (['<', '='], ltEq), (['<', '>'], diamond), (['?', '?'], condition),
  (['?', '='], matchEq), (['?', '<'], matchLt), (['?', '>'], matchGt), (['<', '<'], doubleLt),
  (['>', '>'], doubleGt),
  (['&'], ampersand), (['('], lparen), ([')'], rparen), (['['], lbracket), ([']'], rbracket),
  (['*'], star), (['+'], plus), ([','], comma), (['-'], minus), (['.'], dot), (['/'], slash),
  ([':'], colon), ([';'], semicolon), (['<'], lt), (['='], eq), (['>'], gt), (['|'], bar),
  (['!'], bar), (['@'], at_), (['^'], caret), (['?'], question)]

/-- The longest spelling that the text begins with, and its delimiter. -/
def read? (cs : List Char) : Option (List Char × Delimiter) :=
  spellings.find? fun entry => entry.1.isPrefixOf cs

theorem longer_first :
    spellings.Pairwise fun entry later => later.1.length ≤ entry.1.length := by
  decide

theorem spelling_ne_nil {entry : List Char × Delimiter} (h : entry ∈ spellings) :
    entry.1 ≠ [] := by
  revert entry; decide

theorem read?_prefix {cs : List Char} {entry : List Char × Delimiter}
    (h : read? cs = some entry) : entry.1 <+: cs := by
  have := List.find?_some h
  simpa using this

theorem read?_ne_nil {cs : List Char} {entry : List Char × Delimiter}
    (h : read? cs = some entry) : entry.1 ≠ [] :=
  spelling_ne_nil (List.mem_of_find?_eq_some h)

end Delimiter

end VhdlLayout
