import RamlScaffold.Api.Document
import RamlScaffold.Api.Languages
import RamlScaffold.Api.Model
import RamlScaffold.Api.TypeExpr
import RamlScaffold.Api.Verb
import RamlScaffold.CommandLine.Arguments
import RamlScaffold.CommandLine.Inspect
import RamlScaffold.CommandLine.Log
import RamlScaffold.CommandLine.Run
import RamlScaffold.Decimal
import RamlScaffold.Files.Path
import RamlScaffold.Files.Tree
import RamlScaffold.Generation.Action
import RamlScaffold.Generation.Context
import RamlScaffold.Generation.Event
import RamlScaffold.Generation.Failure
import RamlScaffold.Generation.Formatting
import RamlScaffold.Generation.Generator
import RamlScaffold.Generation.Run
import RamlScaffold.Json
import RamlScaffold.Keyed
import RamlScaffold.Language
import RamlScaffold.Language.FieldName
import RamlScaffold.Language.TypeShape
import RamlScaffold.Libraries
import RamlScaffold.Main
import RamlScaffold.Naming
import RamlScaffold.Pattern
import RamlScaffold.Pattern.Properties
import RamlScaffold.Schema.Bodies
import RamlScaffold.Schema.Classification
import RamlScaffold.Schema.Structure
import RamlScaffold.Service.Route
import RamlScaffold.Settings
import RamlScaffold.Settings.Toml
import RamlScaffold.Template.Builtin.Go
import RamlScaffold.Template.Builtin.Phrase
import RamlScaffold.Template.Builtin.Rust
import RamlScaffold.Template.Expr
import RamlScaffold.Template.Library
import RamlScaffold.Template.Reader
import RamlScaffold.Template.Render
import RamlScaffold.Template.Value
import RamlScaffold.Text.Alphabet
import RamlScaffold.Text.Alphabet.Capitals
import RamlScaffold.Text.Alphabet.CaseMap
import RamlScaffold.Text.Alphabet.Letters
import RamlScaffold.Text.Alphabet.Numerals
import RamlScaffold.Text.Alphabet.WordEnds
import RamlScaffold.Text.Words
import RamlScaffold.Yaml.Document
import RamlScaffold.Yaml.Node
import RamlScaffold.Yaml.Scalar
import RamlScaffold.Yaml.ScalarText
import RamlScaffold.Yaml.Token
import RamlScaffold.Yaml.Tokens
import RamlScaffold.Yaml.Value
import RamlScaffold.Proofs.Naming.Identifier
import RamlScaffold.Proofs.Files.Change
import RamlScaffold.Proofs.Generation.Effect
import RamlScaffold.Proofs.Generation.Job
import RamlScaffold.Proofs.Schema.Shape
import RamlScaffold.Proofs.Service.BodyRoutes
import RamlScaffold.Proofs.Language.FileNames
import RamlScaffold.Proofs.Generation.Plan
import RamlScaffold.Proofs.Generation.Run
import RamlScaffold.Proofs.Generation.Places
import RamlScaffold.Proofs.Generation.WriteOnce
import RamlScaffold.Proofs.Generation.Index
import RamlScaffold.Proofs.Generation.Rerun
import RamlScaffold.Proofs.Generation.Writes
import RamlScaffold.Proofs.Generation.Report
import RamlScaffold.Proofs.Schema.Calls
import RamlScaffold.Proofs.Api.Catalog
import RamlScaffold.Proofs.Generation.Failing
import RamlScaffold.Proofs.Api.Keys
import RamlScaffold.Proofs.Schema.BodyNames
import RamlScaffold.Proofs.Api.DocumentRoutes
import RamlScaffold.Proofs.Text.Blanks
import RamlScaffold.Proofs.Language.TypeReading
import RamlScaffold.Proofs.Language.TypeGrammar
import RamlScaffold.Proofs.Language.References
import RamlScaffold.Proofs.Schema.Realization
import RamlScaffold.Proofs.Generation.Alike
import RamlScaffold.Proofs.Generation.Parts
import RamlScaffold.Proofs.Language.SharedNames
import RamlScaffold.Proofs.Files.Extension
import RamlScaffold.Proofs.Generation.Distinct
import RamlScaffold.Proofs.Generation.ModuleList
import RamlScaffold.Proofs.Service.Described
import RamlScaffold.Proofs.Service.GoClientImports
import RamlScaffold.Proofs.Service.GoImports
import RamlScaffold.Proofs.Service.Implementation
import RamlScaffold.Proofs.Template.StructureText
import RamlScaffold.Proofs.Schema.Inheritance
import RamlScaffold.Proofs.Api.LongArrays
import RamlScaffold.Proofs.Language.ListedNames
import RamlScaffold.Proofs.Api.TypeNames
import RamlScaffold.Proofs.Api.Shorthand
import RamlScaffold.Proofs.Naming.SnakeWords
import RamlScaffold.Proofs.Text.Replacement
import RamlScaffold.Proofs.Naming.PathPieces
import RamlScaffold.Proofs.Naming.PathRewriting
import RamlScaffold.Proofs.Language.ExportedNames
import RamlScaffold.Proofs.Language.MemberNames
import RamlScaffold.Proofs.Api.Facets
import RamlScaffold.Proofs.Schema.DecisionTable
import RamlScaffold.Proofs.Generation.Refusals
import RamlScaffold.Proofs.Template.Sources
import RamlScaffold.Proofs.Template.StructureComments
import RamlScaffold.Proofs.Schema.MemberClashes
import RamlScaffold.Proofs.Service.Parameters
import RamlScaffold.Proofs.Api.Blames
import RamlScaffold.Proofs.Api.MalformedTrees
import RamlScaffold.Proofs.Api.VerbPayloads
import RamlScaffold.Proofs.Schema.SharedSchemas
import RamlScaffold.Proofs.Generation.DryRun
import RamlScaffold.Proofs.Naming.SnakeForm
import RamlScaffold.Proofs.Naming.Composition
import RamlScaffold.Proofs.Language.GeneratedNames
import RamlScaffold.Proofs.Service.Descent
import RamlScaffold.Proofs.Schema.NameReading
import RamlScaffold.Proofs.Api.PrintedTypes
