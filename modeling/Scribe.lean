import Scribe.BuildError
import Scribe.Construct.Basic
import Scribe.Construct.Boxing
import Scribe.Construct.Build
import Scribe.Construct.Built
import Scribe.Construct.ChainCall
import Scribe.Construct.Conditional
import Scribe.Construct.Edit
import Scribe.Construct.EditOrder
import Scribe.Construct.Leaf
import Scribe.Construct.Levels
import Scribe.Construct.Nesting
import Scribe.Construct.Outline
import Scribe.Construct.Register
import Scribe.Construct.Render
import Scribe.Construct.RenderCall
import Scribe.Construct.Rows
import Scribe.Construct.Stamp
import Scribe.Construct.Within
import Scribe.Document.Basic
import Scribe.Document.Policy
import Scribe.Document.Session
import Scribe.Document.Spacing
import Scribe.Layout.Indent
import Scribe.Layout.LineBuffer
import Scribe.Layout.NormalForm
import Scribe.Layout.Normalizer
import Scribe.Naming.CaseStyle
import Scribe.Naming.FileName
import Scribe.Naming.Identifier
import Scribe.Naming.Words
import Scribe.Proofs.AcceptedSettings
import Scribe.Proofs.Boxing
import Scribe.Proofs.Built
import Scribe.Proofs.CaseStyles
import Scribe.Proofs.Chains
import Scribe.Proofs.Composition
import Scribe.Proofs.Docstrings
import Scribe.Proofs.DocumentNames
import Scribe.Proofs.EditOrder
import Scribe.Proofs.FileNames
import Scribe.Proofs.History
import Scribe.Proofs.Insertions
import Scribe.Proofs.LevelLaws
import Scribe.Proofs.Lines
import Scribe.Proofs.NameLabels
import Scribe.Proofs.NamedMethods
import Scribe.Proofs.Nesting
import Scribe.Proofs.NormalForm
import Scribe.Proofs.Normalizing
import Scribe.Proofs.Occurrences
import Scribe.Proofs.Outline
import Scribe.Proofs.OwnRows
import Scribe.Proofs.Passages
import Scribe.Proofs.Passes
import Scribe.Proofs.Policies
import Scribe.Proofs.Registers
import Scribe.Proofs.Remarks
import Scribe.Proofs.RenderFaults
import Scribe.Proofs.Results
import Scribe.Proofs.Rollback
import Scribe.Proofs.Rows
import Scribe.Proofs.Segments
import Scribe.Proofs.Settled
import Scribe.Proofs.Shifting
import Scribe.Proofs.Spacing
import Scribe.Proofs.Stamping
import Scribe.Proofs.ValuePlaces
import Scribe.Proofs.ValueText
import Scribe.Proofs.VisibleLines
import Scribe.Settings.Basic
import Scribe.Settings.Decode
import Scribe.Settings.Error
import Scribe.Settings.Load
import Scribe.Text.Basic
import Scribe.Text.Blank
import Scribe.Text.CaseMap
import Scribe.Text.CharClass
import Scribe.Text.Span
import Scribe.Toml.Lexeme
import Scribe.Toml.Scalar
import Scribe.Toml.Source
import Scribe.Toml.Statement
import Scribe.Toml.Table
import Scribe.Toml.Tree
import Scribe.Value.Basic
import Scribe.Value.Entries
import Scribe.Value.WellFormed
