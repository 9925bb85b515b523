import RemoteImports.Command.Arguments
import RemoteImports.Command.Inputs
import RemoteImports.Command.Run
import RemoteImports.Command.Transform
import RemoteImports.Config.Discovery
import RemoteImports.Config.File
import RemoteImports.Decimal.Shortest
import RemoteImports.Decimal.Written
import RemoteImports.Failure
import RemoteImports.Import.Clause
import RemoteImports.Import.Declaration
import RemoteImports.Import.Scan
import RemoteImports.Json.Number
import RemoteImports.Json.Printer
import RemoteImports.Json.Problem
import RemoteImports.Json.Reader
import RemoteImports.Json.Token
import RemoteImports.Json.Value
import RemoteImports.KeyMap
import RemoteImports.Main
import RemoteImports.Package.Installed
import RemoteImports.Package.Listing
import RemoteImports.Package.Manager
import RemoteImports.Package.Npm
import RemoteImports.Package.Resolver
import RemoteImports.Package.Target
import RemoteImports.Package.Yarn
import RemoteImports.Pattern.Class
import RemoteImports.Pattern.Match
import RemoteImports.Pattern.Parser
import RemoteImports.Pattern.Problem
import RemoteImports.Pattern.Size
import RemoteImports.Pattern.Syntax
import RemoteImports.Project.FileTree
import RemoteImports.Project.Pathname
import RemoteImports.Project.Refusal
import RemoteImports.Proofs.Command.Effect
import RemoteImports.Proofs.Command.Inputs
import RemoteImports.Proofs.Command.Results
import RemoteImports.Proofs.Computation
import RemoteImports.Proofs.Config.ReadBack
import RemoteImports.Proofs.Import.Abreast
import RemoteImports.Proofs.Import.Accepted
import RemoteImports.Proofs.Import.Agreement
import RemoteImports.Proofs.Import.Attributes
import RemoteImports.Proofs.Import.Barrier
import RemoteImports.Proofs.Import.Cut
import RemoteImports.Proofs.Import.Decoded
import RemoteImports.Proofs.Import.Derivation
import RemoteImports.Proofs.Import.Grammar
import RemoteImports.Proofs.Import.Kept
import RemoteImports.Proofs.Import.Literals
import RemoteImports.Proofs.Import.Locals
import RemoteImports.Proofs.Import.Located
import RemoteImports.Proofs.Import.Octets
import RemoteImports.Proofs.Import.Opacity
import RemoteImports.Proofs.Import.Parallel
import RemoteImports.Proofs.Import.Part
import RemoteImports.Proofs.Import.Places
import RemoteImports.Proofs.Import.Printed
import RemoteImports.Proofs.Import.Reached
import RemoteImports.Proofs.Import.Reading
import RemoteImports.Proofs.Import.Replaced
import RemoteImports.Proofs.Import.Respaced
import RemoteImports.Proofs.Import.Runs
import RemoteImports.Proofs.Import.Shape
import RemoteImports.Proofs.Import.Template
import RemoteImports.Proofs.Import.Together
import RemoteImports.Proofs.Json.Expected
import RemoteImports.Proofs.Json.Integers
import RemoteImports.Proofs.Json.Members
import RemoteImports.Proofs.Json.Strings
import RemoteImports.Proofs.Json.Values
import RemoteImports.Proofs.KeyMap
import RemoteImports.Proofs.Package.Answers
import RemoteImports.Proofs.Package.Entries
import RemoteImports.Proofs.Package.Levels
import RemoteImports.Proofs.Package.Listed
import RemoteImports.Proofs.Package.Target
import RemoteImports.Proofs.Project.Descent
import RemoteImports.Proofs.Project.Growth
import RemoteImports.Proofs.Rewrite.Bound
import RemoteImports.Proofs.Rewrite.Direct
import RemoteImports.Proofs.Rewrite.Distinct
import RemoteImports.Proofs.Rewrite.Fallback
import RemoteImports.Proofs.Rewrite.Idempotence
import RemoteImports.Proofs.Rewrite.IdentifierName
import RemoteImports.Proofs.Rewrite.Loading
import RemoteImports.Proofs.Rewrite.Names
import RemoteImports.Proofs.Rewrite.Plans
import RemoteImports.Proofs.Rewrite.Requests
import RemoteImports.Proofs.Rewrite.Rescan
import RemoteImports.Proofs.Rewrite.Resolution
import RemoteImports.Proofs.Rewrite.Session
import RemoteImports.Proofs.Rewrite.Slices
import RemoteImports.Proofs.Rewrite.Splice
import RemoteImports.Proofs.Rewrite.Transform
import RemoteImports.Proofs.Rewrite.WellNamed
import RemoteImports.Proofs.Script.DeclaredNames
import RemoteImports.Proofs.Script.Destructuring
import RemoteImports.Proofs.Script.Evaluation
import RemoteImports.Proofs.Script.Grouping
import RemoteImports.Proofs.Script.Identifier
import RemoteImports.Proofs.Script.IdentifierName
import RemoteImports.Proofs.Script.Indentation
import RemoteImports.Proofs.Script.Literal
import RemoteImports.Proofs.Script.Locality
import RemoteImports.Proofs.Script.Octets
import RemoteImports.Proofs.Script.Parts
import RemoteImports.Proofs.Script.ReadBack
import RemoteImports.Proofs.Script.ReadExpr
import RemoteImports.Proofs.Script.Scopes
import RemoteImports.Proofs.Script.Spelling
import RemoteImports.Proofs.Script.Strict
import RemoteImports.Proofs.Script.Substitution
import RemoteImports.Proofs.Script.Trivia
import RemoteImports.Proofs.Script.WellNamed
import RemoteImports.Proofs.Text.IdentifierClasses
import RemoteImports.Proofs.Text.Octets
import RemoteImports.Proofs.Text.OtherCase
import RemoteImports.Proofs.Text.Tables
import RemoteImports.Rewrite.CamelCase
import RemoteImports.Rewrite.Statements
import RemoteImports.Rewrite.Transform
import RemoteImports.Script.Literal
import RemoteImports.Script.Printer
import RemoteImports.Script.Skip
import RemoteImports.Script.Syntax
import RemoteImports.Script.Word
import RemoteImports.Text.Ascii
import RemoteImports.Text.Bytes
import RemoteImports.Text.Segments
import RemoteImports.Text.Shown
import RemoteImports.Text.Unicode.Alphanumeric
import RemoteImports.Text.Unicode.CaseMap
import RemoteImports.Text.Utf8
