import VhdlLayout.Command.Arguments
import VhdlLayout.Command.Diagnostic
import VhdlLayout.Command.Response
import VhdlLayout.Doc.Basic
import VhdlLayout.Doc.Columns
import VhdlLayout.Doc.Concat
import VhdlLayout.Doc.Equality
import VhdlLayout.Doc.Fits
import VhdlLayout.Doc.Layout
import VhdlLayout.Doc.Rewrite
import VhdlLayout.Doc.Walk
import VhdlLayout.Equivalence.Check
import VhdlLayout.Equivalence.Stream
import VhdlLayout.Files
import VhdlLayout.Gate
import VhdlLayout.Json
import VhdlLayout.Main
import VhdlLayout.Number.Binary64
import VhdlLayout.Number.Shortest
import VhdlLayout.Options.Basic
import VhdlLayout.Options.Complaint
import VhdlLayout.Options.Reading
import VhdlLayout.Options.Setting
import VhdlLayout.Place
import VhdlLayout.Proofs.Equivalence.Extension
import VhdlLayout.Proofs.Equivalence.Placement
import VhdlLayout.Proofs.Files
import VhdlLayout.Proofs.Token.Kind
import VhdlLayout.Proofs.Token.Relayout
import VhdlLayout.Proofs.Token.Rereading
import VhdlLayout.Proofs.Token.Text
import VhdlLayout.Proofs.Token.Tiling
import VhdlLayout.Proofs.Token.Word
import VhdlLayout.Text.Escaped
import VhdlLayout.Text.LineBreaks
import VhdlLayout.Text.Lines
import VhdlLayout.Text.Sorted
import VhdlLayout.Text.Span
import VhdlLayout.Token.Basic
import VhdlLayout.Token.Delimiter
import VhdlLayout.Token.Fault
import VhdlLayout.Token.Kind
import VhdlLayout.Token.Lexeme
import VhdlLayout.Token.Literal
import VhdlLayout.Token.Reader
import VhdlLayout.Token.Word
import VhdlLayout.Toml.Basic
import VhdlLayout.Toml.Document
import VhdlLayout.Toml.Excerpt
import VhdlLayout.Toml.Moment
import VhdlLayout.Toml.Number
import VhdlLayout.Toml.Quoted
import VhdlLayout.Toml.Rule
import VhdlLayout.Toml.Space
import VhdlLayout.Toml.Table
import VhdlLayout.Toml.Value
import VhdlLayout.Unicode.Alphabetic
import VhdlLayout.Unicode.Extending
import VhdlLayout.Unicode.Lowercase
import VhdlLayout.Unicode.Numeric
import VhdlLayout.Unicode.Printable
import VhdlLayout.Unicode.Runs
import VhdlLayout.Proofs.Gate.Preservation
import VhdlLayout.Proofs.Doc.Bracketing
import VhdlLayout.Proofs.Doc.Pieces
import VhdlLayout.Proofs.Doc.Recursion
import VhdlLayout.Proofs.Doc.Regrouping
import VhdlLayout.Proofs.Doc.Rendering
import VhdlLayout.Proofs.Doc.Built
import VhdlLayout.Proofs.Doc.Ink
import VhdlLayout.Proofs.Doc.OneLine
import VhdlLayout.Proofs.Doc.Respelling
import VhdlLayout.Proofs.Equivalence.LetterCase
import VhdlLayout.Proofs.Equivalence.Likeness
import VhdlLayout.Proofs.Text.Lines
import VhdlLayout.Proofs.Equivalence.Report
import VhdlLayout.Proofs.Gate.Encoding
import VhdlLayout.Proofs.Gate.KeywordCase
import VhdlLayout.Proofs.Doc.Columns
import VhdlLayout.Proofs.Doc.Fitting
import VhdlLayout.Proofs.Doc.Rewriting
import VhdlLayout.Proofs.Doc.Sequence
import VhdlLayout.Proofs.Doc.WithoutColumns
import VhdlLayout.Proofs.Doc.Table
import VhdlLayout.Proofs.Gate.Settling
import VhdlLayout.Proofs.Token.Lexemes
import VhdlLayout.Proofs.Text.LongestPrefix
import VhdlLayout.Proofs.Token.Quotation
import VhdlLayout.Proofs.Token.CarriageReturn
import VhdlLayout.Proofs.Token.Number
import VhdlLayout.Proofs.Token.Munch
import VhdlLayout.Proofs.Doc.Position
import VhdlLayout.Proofs.Token.Apostrophe
import VhdlLayout.Proofs.Token.Malformed
import VhdlLayout.Proofs.Equivalence.Spelling
import VhdlLayout.Proofs.Json
import VhdlLayout.Proofs.Command.Verification
import VhdlLayout.Proofs.Doc.Relabelling
import VhdlLayout.Proofs.Options.Reading
import VhdlLayout.Proofs.Doc.Walking
import VhdlLayout.Proofs.Doc.Comparison
