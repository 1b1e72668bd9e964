import ApiCompiler.Address
import ApiCompiler.Address.Label
import ApiCompiler.Address.LabelCharacters
import ApiCompiler.Address.Numeric
import ApiCompiler.Address.Punycode
import ApiCompiler.Address.Recognition
import ApiCompiler.Api
import ApiCompiler.Api.Decoding
import ApiCompiler.Api.Encoding
import ApiCompiler.Breakdown
import ApiCompiler.Client
import ApiCompiler.Compilation
import ApiCompiler.Console
import ApiCompiler.Console.Arguments
import ApiCompiler.Console.Lines
import ApiCompiler.Console.Literal
import ApiCompiler.Console.Markup
import ApiCompiler.Console.Pictures
import ApiCompiler.Console.Style
import ApiCompiler.Console.Table
import ApiCompiler.Derivation
import ApiCompiler.Derivation.Definitions
import ApiCompiler.Derivation.Reachability
import ApiCompiler.Derivation.TagFilter
import ApiCompiler.Document
import ApiCompiler.Document.Check
import ApiCompiler.Document.Loading
import ApiCompiler.Document.Reading
import ApiCompiler.Document.Version
import ApiCompiler.Document.Written
import ApiCompiler.Failure
import ApiCompiler.Generation
import ApiCompiler.Generation.Manifest
import ApiCompiler.Generation.Run
import ApiCompiler.Hoisting
import ApiCompiler.Host
import ApiCompiler.Json.Reader
import ApiCompiler.Json.Value
import ApiCompiler.Json.Writer
import ApiCompiler.Main
import ApiCompiler.MediaType
import ApiCompiler.MethodName
import ApiCompiler.Name.Case
import ApiCompiler.Name.Words
import ApiCompiler.Notice
import ApiCompiler.Number.Double
import ApiCompiler.Number.Layout
import ApiCompiler.Operation.Compile
import ApiCompiler.Path
import ApiCompiler.Pattern.Reader
import ApiCompiler.Pattern.Search
import ApiCompiler.Pattern.Syntax
import ApiCompiler.Proofs.Build.Returning
import ApiCompiler.Proofs.Registry.Growth
import ApiCompiler.Reference
import ApiCompiler.Reference.Resolution
import ApiCompiler.Registry
import ApiCompiler.Reply
import ApiCompiler.Schema
import ApiCompiler.Settings
import ApiCompiler.Settings.Loading
import ApiCompiler.Shape.Basic
import ApiCompiler.Shape.Likeness
import ApiCompiler.Shape.Walk
import ApiCompiler.Target.Choice
import ApiCompiler.Target.Projection
import ApiCompiler.Target.TypeExpr
import ApiCompiler.Target.Vocabulary
import ApiCompiler.Text.Accents
import ApiCompiler.Text.CharacterName
import ApiCompiler.Text.Charset
import ApiCompiler.Text.CharsetTables
import ApiCompiler.Text.Classes
import ApiCompiler.Text.CodePoints
import ApiCompiler.Text.Composed
import ApiCompiler.Text.Identifier
import ApiCompiler.Text.Letters
import ApiCompiler.Text.Numeral
import ApiCompiler.Text.Percent
import ApiCompiler.Text.Quoted
import ApiCompiler.Text.WholeNumber
import ApiCompiler.Text.Width
import ApiCompiler.Toml.Dates
import ApiCompiler.Toml.Reader
import ApiCompiler.Toml.Table
import ApiCompiler.Value
import ApiCompiler.Value.Calendar
import ApiCompiler.Value.Likeness
import ApiCompiler.Value.Order
import ApiCompiler.Value.Writing
import ApiCompiler.Workspace.Program
import ApiCompiler.Workspace.Script
import ApiCompiler.Workspace.Tree
import ApiCompiler.Yaml.Cursor
import ApiCompiler.Yaml.Dates
import ApiCompiler.Yaml.Marks
import ApiCompiler.Yaml.Node
import ApiCompiler.Yaml.Plain
import ApiCompiler.Yaml.Reader
import ApiCompiler.Yaml.Texts
import ApiCompiler.Yaml.Token
import ApiCompiler.Yaml.Tokens
import ApiCompiler.Proofs.Registry.Naming
import ApiCompiler.Proofs.Schema.Declarations
import ApiCompiler.Proofs.Schema.Forms
import ApiCompiler.Proofs.Hoisting.Equations
import ApiCompiler.Proofs.Hoisting.Meaning
import ApiCompiler.Proofs.Hoisting.Correctness
import ApiCompiler.Proofs.Derivation.Definitions
import ApiCompiler.Proofs.Derivation.TreeShaking
import ApiCompiler.Proofs.Document.Contents
import ApiCompiler.Proofs.Operation.Meaning
import ApiCompiler.Proofs.Compilation.Ledger
import ApiCompiler.Proofs.Compilation.Resolution
import ApiCompiler.Proofs.Compilation.NameCollisions
import ApiCompiler.Proofs.Hoisting.Completeness
import ApiCompiler.Proofs.Derivation.Filtering
import ApiCompiler.Proofs.Compilation.Completeness
import ApiCompiler.Proofs.Derivation.Restriction
import ApiCompiler.Proofs.Derivation.Narrowing
import ApiCompiler.Proofs.Value.Keys
import ApiCompiler.Proofs.Outcomes
import ApiCompiler.Proofs.Value.SortedEntries
import ApiCompiler.Proofs.Value.Rearrangement
import ApiCompiler.Proofs.Shape.Rearrangement
import ApiCompiler.Proofs.Build.Agreement
import ApiCompiler.Proofs.Schema.Rearrangement
import ApiCompiler.Proofs.Hoisting.Rearrangement
import ApiCompiler.Proofs.Document.Rearrangement
import ApiCompiler.Proofs.Api.Likeness
import ApiCompiler.Proofs.Operation.Rearrangement
import ApiCompiler.Proofs.Compilation.Rearrangement
import ApiCompiler.Proofs.Build.Assembly
import ApiCompiler.Proofs.Build.Lockstep
import ApiCompiler.Proofs.Registry.Consistency
import ApiCompiler.Proofs.Hoisting.Parts
import ApiCompiler.Proofs.Derivation.DependencyOrder
import ApiCompiler.Proofs.Compilation.Modes
import ApiCompiler.Proofs.Compilation.Stages
import ApiCompiler.Proofs.Compilation.Consistency
import ApiCompiler.Proofs.Compilation.DependencyOrder
import ApiCompiler.Proofs.Compilation.Grouping
import ApiCompiler.Proofs.Target.Parts
import ApiCompiler.Proofs.Target.Expressible
import ApiCompiler.Proofs.Target.Precedence
import ApiCompiler.Proofs.Reference.Chains
import ApiCompiler.Proofs.Build.Stopping
import ApiCompiler.Proofs.Operation.Uses
import ApiCompiler.Proofs.Compilation.Failures
import ApiCompiler.Proofs.Number.Rounding
import ApiCompiler.Proofs.Number.Shortest
import ApiCompiler.Proofs.Json.Numbers
import ApiCompiler.Proofs.Json.Texts
import ApiCompiler.Proofs.Json.Values
import ApiCompiler.Proofs.Value.Description
import ApiCompiler.Proofs.Shape.Decoding
import ApiCompiler.Proofs.Api.Decoding
import ApiCompiler.Proofs.Compilation.FilterModes
import ApiCompiler.Proofs.Target.Approximation
import ApiCompiler.Proofs.Target.Nullability
import ApiCompiler.Proofs.Build.Keeping
import ApiCompiler.Proofs.Hoisting.Enumerations
import ApiCompiler.Proofs.Target.Literals
import ApiCompiler.Proofs.Name.Words
import ApiCompiler.Proofs.Target.ModelNames
import ApiCompiler.Proofs.Generation.Failing
import ApiCompiler.Proofs.Generation.Preparation
import ApiCompiler.Proofs.Hoisting.FinalNames
import ApiCompiler.Proofs.Hoisting.Refusals
import ApiCompiler.Proofs.Derivation.Precedence
import ApiCompiler.Proofs.Reference.Escapes
import ApiCompiler.Proofs.Reference.Cycles
import ApiCompiler.Proofs.Hoisting.ObjectFields
import ApiCompiler.Proofs.Operation.Parameters
import ApiCompiler.Proofs.Name.Boundaries
import ApiCompiler.Proofs.Operation.ResponseContent
import ApiCompiler.Proofs.Operation.SuccessResponse
import ApiCompiler.Proofs.Compilation.CallOrder
import ApiCompiler.Proofs.Name.Resplitting
import ApiCompiler.Proofs.Name.Identifiers
import ApiCompiler.Proofs.Client.Exclusion
import ApiCompiler.Proofs.Generation.MethodNames
import ApiCompiler.Proofs.Shape.Traversal
