import VhdlLayout.Token.Delimiter
import VhdlLayout.Token.Word

/-!
# Kinds of tokens

What a token is, apart from where it stands and how it is written: a reserved
word, a delimiter, a literal, an identifier, a comment, the end of the text, or
a stretch of text that is none of these.

Comments and the end of the text carry no meaning (`Kind.isTrivia`); all other
tokens do, the malformed ones included.
-/

namespace VhdlLayout

/-- What a token is. -/
inductive Kind where
  | word (w : Word)
  | delimiter (d : Delimiter)
  | intLiteral
  | realLiteral
  | charLiteral
  | stringLiteral
  | bitStringLiteral
  | ident
  | extendedIdent
  | comment
  | eof
  /-- A stretch of text that is no token. -/
  | error
deriving DecidableEq, Repr

namespace Kind

/-- The name under which the kind is reported. -/
def name : Kind → String
  | .word w => w.name
  | .delimiter d => d.name
  | .intLiteral => "IntLiteral"
  | .realLiteral => "RealLiteral"
  | .charLiteral => "CharLiteral"
  | .stringLiteral => "StringLiteral"
  | .bitStringLiteral => "BitStringLiteral"
  | .ident => "Ident"
  | .extendedIdent => "ExtendedIdent"
  | .comment => "Comment"
  | .eof => "Eof"
  | .error => "Error"

/-- The kind is a reserved word. -/
def isWord : Kind → Bool
  | .word _ => true
  | _ => false

/-- The kind is a basic or an extended identifier. -/
def isIdentifier : Kind → Bool
  | .ident | .extendedIdent => true
  | _ => false

/-- The kind plays no part in what a program means. -/
def isTrivia : Kind → Bool
  | .comment | .eof => true
  | _ => false

/-- The kind is a reserved word that may be added to a program without changing its meaning. -/
def isOptional : Kind → Bool
  | .word w => w.isOptional
  | _ => false

/-- A tick after a token of this kind names an attribute or a qualified expression. -/
def endsName : Kind → Bool
  | .ident | .extendedIdent | .delimiter .rparen | .delimiter .rbracket | .word .all => true
  | _ => false

end Kind

end VhdlLayout
