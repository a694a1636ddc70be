import MathHeader.Catalog.Basic
import MathHeader.Catalog.Comparison
import MathHeader.Catalog.Componentwise
import MathHeader.Catalog.Elementary
import MathHeader.Catalog.Linear
import MathHeader.Catalog.Standard
import MathHeader.Check.Directive
import MathHeader.Check.Matching
import MathHeader.CommandLine.Options
import MathHeader.CommandLine.Program
import MathHeader.Detection.Block
import MathHeader.Detection.ByteOrder
import MathHeader.Detection.Simd
import MathHeader.Detection.Target
import MathHeader.Error
import MathHeader.Header.Config
import MathHeader.Header.Generation
import MathHeader.Header.Section
import MathHeader.Identifier
import MathHeader.Macros.Constant
import MathHeader.Macros.Constructor
import MathHeader.Macros.Definition
import MathHeader.Macros.Utility
import MathHeader.Main
import MathHeader.Operation
import MathHeader.Output.FileTree
import MathHeader.Output.Replacement
import MathHeader.Output.Sink
import MathHeader.Preprocessor.Condition
import MathHeader.Preprocessor.Node
import MathHeader.Preprocessor.Resolution
import MathHeader.Preprocessor.Value
import MathHeader.Primitive
import MathHeader.Proofs.Generation.Event
import MathHeader.Rounding
import MathHeader.Scalar
import MathHeader.Session.Basic
import MathHeader.Session.NameTable
import MathHeader.Session.Registry
import MathHeader.Session.Stats
import MathHeader.Shape
import MathHeader.Storage.AliasGroup
import MathHeader.Storage.Overlay
import MathHeader.Storage.Record
import MathHeader.Symbol
import MathHeader.Taxonomy
import MathHeader.Template.Basic
import MathHeader.Template.Lexeme
import MathHeader.Template.Parser
import MathHeader.Template.Render
import MathHeader.Text.Blank
import MathHeader.Text.CodePoints
import MathHeader.Text.Hexadecimal
import MathHeader.Text.Lines
import MathHeader.Text.Quoted
import MathHeader.Text.Search
import MathHeader.TypeClass
import MathHeader.ValueType
import MathHeader.Proofs.Generation.Trace
import MathHeader.Proofs.Names.Token
import MathHeader.Proofs.Template.Fits
import MathHeader.Proofs.Catalog.Standard
import MathHeader.Proofs.Names.Library
import MathHeader.Proofs.Generation.Standard
import MathHeader.Proofs.Header.Line
import MathHeader.Proofs.Preprocessor.Strings
import MathHeader.Proofs.Header.Block
import MathHeader.Proofs.Header.Declarations
import MathHeader.Proofs.Header.Artifact
import MathHeader.Proofs.Template.Lexemes
import MathHeader.Proofs.Template.Reading
import MathHeader.Proofs.Preprocessor.Walk
import MathHeader.Proofs.Detection.Settled
import MathHeader.Proofs.Detection.Ladder
import MathHeader.Proofs.Detection.Extensions
import MathHeader.Proofs.Template.Glyphs
import MathHeader.Proofs.Operation.Calls
import MathHeader.Proofs.Catalog.DefinitionOrder
import MathHeader.Proofs.Names.Collision
import MathHeader.Proofs.Generation.Collision
import MathHeader.Proofs.Preprocessor.Expression
import MathHeader.Proofs.Preprocessor.Reading
import MathHeader.Proofs.Preprocessor.Meaning
import MathHeader.Proofs.Preprocessor.Directive
import MathHeader.Proofs.Preprocessor.Simulation
import MathHeader.Proofs.Generation.Restriction
import MathHeader.Proofs.Check.Placement
import MathHeader.Proofs.Preprocessor.Dependence
import MathHeader.Proofs.Detection.Guard
import MathHeader.Proofs.Session.History
import MathHeader.Proofs.Template.Requirements
import MathHeader.Proofs.Session.Accounts
import MathHeader.Proofs.Generation.Coverage
import MathHeader.Proofs.Template.Resemblance
import MathHeader.Proofs.Storage.Reading
import MathHeader.Proofs.Catalog.DeclaredTypes
import MathHeader.Proofs.Template.Composition
import MathHeader.Proofs.Template.Writing
import MathHeader.Proofs.Operation.Outcome
import MathHeader.Proofs.Operation.Broadcast
import MathHeader.Proofs.Check.Ordering
import MathHeader.Proofs.Preprocessor.Frame
import MathHeader.Proofs.Detection.Supported
import MathHeader.Proofs.Preprocessor.Wrapping
import MathHeader.Proofs.Check.Reading
import MathHeader.Proofs.Output.Writing
import MathHeader.Proofs.Rounding.Exactness
import MathHeader.Proofs.Rounding.Remainder
import MathHeader.Proofs.Storage.Memory
import MathHeader.Proofs.Storage.Halves
import MathHeader.Proofs.Header.Comments
import MathHeader.Proofs.Template.Closing
import MathHeader.Proofs.Storage.Members
import MathHeader.Proofs.Header.Definition
import MathHeader.Proofs.Output.Replacement
