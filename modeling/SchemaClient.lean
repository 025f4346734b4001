import SchemaClient.Client
import SchemaClient.Code.Grammar.Expression
import SchemaClient.Code.Grammar.Pattern
import SchemaClient.Code.Grammar.Rule
import SchemaClient.Code.Grammar.Statement
import SchemaClient.Code.Interpolation
import SchemaClient.Code.Lexeme
import SchemaClient.Code.WellFormed
import SchemaClient.Command.FileSystem
import SchemaClient.Command.Options
import SchemaClient.Command.Run
import SchemaClient.Descriptor
import SchemaClient.Error
import SchemaClient.Generate
import SchemaClient.Hook
import SchemaClient.Main
import SchemaClient.Model.Basic
import SchemaClient.Model.Build
import SchemaClient.Model.Default
import SchemaClient.Model.Member
import SchemaClient.Module.Declaration
import SchemaClient.Module.Layout
import SchemaClient.Module.Member
import SchemaClient.Name
import SchemaClient.Scalar
import SchemaClient.Schema
import SchemaClient.Sdl.Definition
import SchemaClient.Sdl.Fault
import SchemaClient.Sdl.Grammar
import SchemaClient.Sdl.Parse
import SchemaClient.Sdl.Scan
import SchemaClient.Sdl.Token
import SchemaClient.Table
import SchemaClient.Template
import SchemaClient.Text.Basic
import SchemaClient.Text.Character
import SchemaClient.Text.Literal
import SchemaClient.Text.Span
import SchemaClient.Text.Table.Case
import SchemaClient.Text.Table.Identifier
import SchemaClient.Text.Table.Printable
import SchemaClient.Traced
import SchemaClient.Proofs.Code.Lines
import SchemaClient.Proofs.Code.Number
import SchemaClient.Proofs.Code.Scan
import SchemaClient.Proofs.Code.Value
import SchemaClient.Proofs.Code.Written
import SchemaClient.Proofs.Command.FileSystem
import SchemaClient.Proofs.Command.Report
import SchemaClient.Proofs.Command.Run
import SchemaClient.Proofs.Conversion
import SchemaClient.Proofs.Descriptor.Hint
import SchemaClient.Proofs.Descriptor.Reference
import SchemaClient.Proofs.Expression.Projection
import SchemaClient.Proofs.Filter.Reference
import SchemaClient.Proofs.Filter.Restriction
import SchemaClient.Proofs.First
import SchemaClient.Proofs.Generate
import SchemaClient.Proofs.Grammar.Expression
import SchemaClient.Proofs.Grammar.Statement
import SchemaClient.Proofs.Model.Allocation
import SchemaClient.Proofs.Model.Build
import SchemaClient.Proofs.Model.Context
import SchemaClient.Proofs.Model.Extension
import SchemaClient.Proofs.Model.Members
import SchemaClient.Proofs.Model.Numbering
import SchemaClient.Proofs.Model.Order
import SchemaClient.Proofs.Model.Outcome
import SchemaClient.Proofs.Model.Reserved
import SchemaClient.Proofs.Model.ResponseKey
import SchemaClient.Proofs.Model.Scalar
import SchemaClient.Proofs.Module.ClassName
import SchemaClient.Proofs.Module.Count
import SchemaClient.Proofs.Module.InputDefault
import SchemaClient.Proofs.Module.Layout
import SchemaClient.Proofs.Module.Mark
import SchemaClient.Proofs.Module.Parameter
import SchemaClient.Proofs.Module.Shadow
import SchemaClient.Proofs.Module.Unmarked
import SchemaClient.Proofs.Module.WellFormed
import SchemaClient.Proofs.Module.Written
import SchemaClient.Proofs.Name.Case
import SchemaClient.Proofs.Name.Fresh
import SchemaClient.Proofs.Name.Identifier
import SchemaClient.Proofs.Name.Settled
import SchemaClient.Proofs.Render
import SchemaClient.Proofs.Schema.Declared
import SchemaClient.Proofs.Schema.Merge
import SchemaClient.Proofs.Schema.Outcome
import SchemaClient.Proofs.Sdl.Escape
import SchemaClient.Proofs.Table
import SchemaClient.Proofs.Text.Line
import SchemaClient.Proofs.Text.Occurrence
import SchemaClient.Proofs.Text.Sorted
