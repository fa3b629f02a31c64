/-!
# Reserved words

The reserved words of VHDL-2008, those of the property language left out. A
word has a spelling in small letters (`Word.spelling`), and is looked up in a
table of its own (`Word.lexicon`) when it is read, in any mixture of cases
(`Word.ofString?`). The table and the spellings agree (`Word.mem_lexicon_iff`).

A few words may be added to a program without changing what it means
(`Word.isOptional`): the word that names the unit after `end`, the mode `in`
and the object classes of an interface list, and the like.
-/

namespace VhdlLayout

/-- A reserved word. -/
inductive Word where
  | abs | access | after | alias | all | and | architecture | array | assert | attribute_ | begin
  | block | body | buffer | bus | case | component | configuration | constant | context | default
  | disconnect | downto | else_ | elsif | end_ | entity | exit | file | for_ | force | function
  | generate | generic | group | guarded | if_ | impure | in_ | inertial | inout | is | label
  | library | linkage | literal | loop | map | mod | nand | new | next | nor | not | null | of | on
  | open_ | or | others | out | package | parameter | port | postponed | procedure | process
  | protected_ | pure | range | record | register | reject | release | rem | report | return_ | rol
  | ror | select | severity | shared | signal | sla | sll | sra | srl | subtype | then_ | to
  | transport | type | unaffected | units | until | use | variable_ | wait | when | while_ | with_
  | xnor | xor
deriving DecidableEq, Repr

namespace Word

/-- The word in small letters. -/
def spelling : Word → String
  | .abs => "abs"
  | .access => "access"
  | .after => "after"
  | .alias => "alias"
  | .all => "all"
  | .and => "and"
  | .architecture => "architecture"
  | .array => "array"
  | .assert => "assert"
  | .attribute_ => "attribute"
  | .begin => "begin"
  | .block => "block"
  | .body => "body"
  | .buffer => "buffer"
  | .bus => "bus"
  | .case => "case"
  | .component => "component"
  | .configuration => "configuration"
  | .constant => "constant"
  | .context => "context"
  | .default => "default"
  | .disconnect => "disconnect"
  | .downto => "downto"
  | .else_ => "else"
  | .elsif => "elsif"
  | .end_ => "end"
  | .entity => "entity"
  | .exit => "exit"
  | .file => "file"
  | .for_ => "for"
  | .force => "force"
  | .function => "function"
  | .generate => "generate"
  | .generic => "generic"
  | .group => "group"
  | .guarded => "guarded"
  | .if_ => "if"
  | .impure => "impure"
  | .in_ => "in"
  | .inertial => "inertial"
  | .inout => "inout"
  | .is => "is"
  | .label => "label"
  | .library => "library"
  | .linkage => "linkage"
  | .literal => "literal"
  | .loop => "loop"
  | .map => "map"
  | .mod => "mod"
  | .nand => "nand"
  | .new => "new"
  | .next => "next"
  | .nor => "nor"
  | .not => "not"
  | .null => "null"
  | .of => "of"
  | .on => "on"
  | .open_ => "open"
  | .or => "or"
  | .others => "others"
  | .out => "out"
  | .package => "package"
  | .parameter => "parameter"
  | .port => "port"
  | .postponed => "postponed"
  | .procedure => "procedure"
  | .process => "process"
  | .protected_ => "protected"
  | .pure => "pure"
  | .range => "range"
  | .record => "record"
  | .register => "register"
  | .reject => "reject"
  | .release => "release"
  | .rem => "rem"
  | .report => "report"
  | .return_ => "return"
  | .rol => "rol"
  | .ror => "ror"
  | .select => "select"
  | .severity => "severity"
  | .shared => "shared"
  | .signal => "signal"
  | .sla => "sla"
  | .sll => "sll"
  | .sra => "sra"
  | .srl => "srl"
  | .subtype => "subtype"
  | .then_ => "then"
  | .to => "to"
  | .transport => "transport"
  | .type => "type"
  | .unaffected => "unaffected"
  | .units => "units"
  | .until => "until"
  | .use => "use"
  | .variable_ => "variable"
  | .wait => "wait"
  | .when => "when"
  | .while_ => "while"
  | .with_ => "with"
  | .xnor => "xnor"
  | .xor => "xor"

/-- The reserved words in alphabetical order, with the small letters that they are read from. -/
def lexicon : List (String × Word) := [
  ("abs", .abs), ("access", .access), ("after", .after), ("alias", .alias), ("all", .all),
  ("and", .and), ("architecture", .architecture), ("array", .array), ("assert", .assert),
  ("attribute", .attribute_), ("begin", .begin), ("block", .block), ("body", .body),
  ("buffer", .buffer), ("bus", .bus), ("case", .case), ("component", .component),
  ("configuration", .configuration), ("constant", .constant), ("context", .context),
  ("default", .default), ("disconnect", .disconnect), ("downto", .downto), ("else", .else_),
  ("elsif", .elsif), ("end", .end_), ("entity", .entity), ("exit", .exit), ("file", .file),
  ("for", .for_), ("force", .force), ("function", .function), ("generate", .generate),
  ("generic", .generic), ("group", .group), ("guarded", .guarded), ("if", .if_),
  ("impure", .impure), ("in", .in_), ("inertial", .inertial), ("inout", .inout), ("is", .is),
  ("label", .label), ("library", .library), ("linkage", .linkage), ("literal", .literal),
  ("loop", .loop), ("map", .map), ("mod", .mod), ("nand", .nand), ("new", .new), ("next", .next),
  ("nor", .nor), ("not", .not), ("null", .null), ("of", .of), ("on", .on), ("open", .open_),
  ("or", .or), ("others", .others), ("out", .out), ("package", .package), ("parameter", .parameter),
  ("port", .port), ("postponed", .postponed), ("procedure", .procedure), ("process", .process),
  ("protected", .protected_), ("pure", .pure), ("range", .range), ("record", .record),
  ("register", .register), ("reject", .reject), ("release", .release), ("rem", .rem),
  ("report", .report), ("return", .return_), ("rol", .rol), ("ror", .ror), ("select", .select),
  ("severity", .severity), ("shared", .shared), ("signal", .signal), ("sla", .sla), ("sll", .sll),
  ("sra", .sra), ("srl", .srl), ("subtype", .subtype), ("then", .then_), ("to", .to),
  ("transport", .transport), ("type", .type), ("unaffected", .unaffected), ("units", .units),
  ("until", .until), ("use", .use), ("variable", .variable_), ("wait", .wait), ("when", .when),
  ("while", .while_), ("with", .with_), ("xnor", .xnor), ("xor", .xor)]

/-- No reserved word is longer. -/
def longest : Nat := 13

/-- The reserved word that a text spells, whatever the case of its letters. -/
def ofString? (text : String) : Option Word :=
  if text.utf8ByteSize > longest then none
  else lexicon.lookup text.toLower

/-- The word may be added to a program without changing its meaning. -/
def isOptional : Word → Bool
  | .entity | .architecture | .package | .body | .configuration | .procedure | .function
  | .in_ | .is | .component | .variable_ | .constant => true
  | _ => false

/-- The name of the word as a kind of token: its spelling with a capital first letter. -/
def name (w : Word) : String := w.spelling.capitalize

/-- The table has each word with its spelling and nothing else. -/
theorem mem_lexicon_iff {text : String} {w : Word} : (text, w) ∈ lexicon ↔ text = w.spelling := by
  have sound : ∀ entry ∈ lexicon, entry.1 = entry.2.spelling := by decide +kernel
  refine ⟨sound (text, w), ?_⟩
  rintro rfl
  -- The words stand in the table in the order in which they have been declared.
  have hplace : lexicon[w.ctorIdx]? = some (w.spelling, w) := by cases w <;> rfl
  exact List.mem_of_getElem? hplace

end Word

end VhdlLayout
