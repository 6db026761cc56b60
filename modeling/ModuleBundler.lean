import ModuleBundler.BuildError
import ModuleBundler.Bundle.Asset
import ModuleBundler.Bundle.Build
import ModuleBundler.Bundle.LoaderText
import ModuleBundler.Bundle.Render
import ModuleBundler.CommandLine.Arguments
import ModuleBundler.CommandLine.Report
import ModuleBundler.CommandLine.Run
import ModuleBundler.Compiler
import ModuleBundler.Config.Cursor
import ModuleBundler.Config.Fault
import ModuleBundler.Config.Number
import ModuleBundler.Config.Options
import ModuleBundler.Config.Quoted
import ModuleBundler.Config.Record
import ModuleBundler.FileStore.Basic
import ModuleBundler.FileStore.Flat
import ModuleBundler.FileStore.Tree
import ModuleBundler.Graph.Basic
import ModuleBundler.Graph.Discovery
import ModuleBundler.Graph.ModuleId
import ModuleBundler.Graph.Resolver
import ModuleBundler.Graph.Scan
import ModuleBundler.Identifier.ContinueRanges
import ModuleBundler.Identifier.Name
import ModuleBundler.Identifier.StartRanges
import ModuleBundler.Loading.Loader
import ModuleBundler.Loading.Table
import ModuleBundler.Loading.Value
import ModuleBundler.Main
import ModuleBundler.Options.Basic
import ModuleBundler.OrderedMap
import ModuleBundler.Path.Basic
import ModuleBundler.Path.Normal
import ModuleBundler.Proofs.Execution.Answers
import ModuleBundler.Proofs.Execution.GraphTable
import ModuleBundler.Proofs.Execution.Lockstep
import ModuleBundler.Proofs.Execution.ScannedGraph
import ModuleBundler.Proofs.Execution.Staging
import ModuleBundler.Proofs.Graph.Closure
import ModuleBundler.Proofs.Graph.DepthFirst
import ModuleBundler.Proofs.Graph.Resolution
import ModuleBundler.Proofs.Graph.Turns
import ModuleBundler.Proofs.Loading.Machine
import ModuleBundler.Proofs.Loading.Running
import ModuleBundler.Proofs.OrderedMap
import ModuleBundler.Proofs.Path.NormalForm
import ModuleBundler.Script.Compile
import ModuleBundler.Script.Edit
import ModuleBundler.Script.Fault
import ModuleBundler.Script.Item
import ModuleBundler.Script.Lexer
import ModuleBundler.Script.Linkage
import ModuleBundler.Script.Parser.Basic
import ModuleBundler.Script.Parser.Class
import ModuleBundler.Script.Parser.Declaration
import ModuleBundler.Script.Parser.Expression
import ModuleBundler.Script.Parser.Function
import ModuleBundler.Script.Parser.Item
import ModuleBundler.Script.Parser.Pattern
import ModuleBundler.Script.Parser.Primary
import ModuleBundler.Script.Parser.Statement
import ModuleBundler.Script.Prelude
import ModuleBundler.Script.Read
import ModuleBundler.Script.Resolve
import ModuleBundler.Script.Scope
import ModuleBundler.Script.Token
import ModuleBundler.Script.Tree
import ModuleBundler.Text.Amount
import ModuleBundler.Text.Blank
import ModuleBundler.Text.Exhibited
import ModuleBundler.Text.Lines
import ModuleBundler.Text.Quoted
import ModuleBundler.Text.Ranges
import ModuleBundler.Text.Shortest
import ModuleBundler.Text.UnprintableRanges
import ModuleBundler.Proofs.Loading.Closed
import ModuleBundler.Proofs.Graph.Relocation
import ModuleBundler.Proofs.Path.Inside
import ModuleBundler.Proofs.Bundle.Manifest
import ModuleBundler.Proofs.Bundle.Location
import ModuleBundler.Proofs.Script.Names
import ModuleBundler.Proofs.Script.Accesses
import ModuleBundler.Proofs.Script.Layout
import ModuleBundler.Script.Comparison
import ModuleBundler.Proofs.Script.References
import ModuleBundler.Proofs.Script.Lowering
import ModuleBundler.Proofs.Graph.Cycles
import ModuleBundler.Proofs.Loading.Entering
import ModuleBundler.Proofs.Script.Variables
import ModuleBundler.Proofs.Script.Places
import ModuleBundler.Proofs.Script.Hygiene
import ModuleBundler.Proofs.Loading.Chains
import ModuleBundler.Proofs.Loading.Returning
import ModuleBundler.Proofs.Execution.Acyclic
import ModuleBundler.Proofs.Text.Reading
import ModuleBundler.Proofs.Bundle.Reading
import ModuleBundler.Proofs.Script.Prelude
import ModuleBundler.Proofs.Loading.Specifiers
import ModuleBundler.Proofs.Execution.ScriptGraph
import ModuleBundler.Proofs.Script.Parsing
import ModuleBundler.Proofs.Script.Exports
import ModuleBundler.Proofs.Bundle.Region
import ModuleBundler.Proofs.Bundle.Writing
import ModuleBundler.Proofs.FileStore.Mirror
import ModuleBundler.Proofs.Loading.Ending
import ModuleBundler.Proofs.Loading.Publishing
import ModuleBundler.Proofs.Graph.Calls
import ModuleBundler.Proofs.Bundle.Unrelated
import ModuleBundler.Proofs.Bundle.Delivery
import ModuleBundler.Proofs.Script.Definitions
import ModuleBundler.Proofs.Script.Edits
import ModuleBundler.Proofs.Script.Callees
import ModuleBundler.Proofs.Path.Joining
import ModuleBundler.Proofs.FileStore.History
import ModuleBundler.Proofs.Bundle.Spelling
import ModuleBundler.Proofs.Loading.Failures
import ModuleBundler.Proofs.Identifier.Repair
import ModuleBundler.Proofs.Text.Literals
import ModuleBundler.Proofs.Identifier.Access
import ModuleBundler.Proofs.Graph.Histories
import ModuleBundler.Proofs.Options.Layers
import ModuleBundler.Proofs.FileStore.WellFormed
import ModuleBundler.Proofs.FileStore.Populating
