import Dataflow.Binding
import Dataflow.CommandLine.Arguments
import Dataflow.CommandLine.Run
import Dataflow.Decimal.Basic
import Dataflow.Decimal.Layout
import Dataflow.Decimal.Ratio
import Dataflow.Decimal.Reader
import Dataflow.Decimal.Shortest
import Dataflow.Diagnostic
import Dataflow.Emission
import Dataflow.Engine
import Dataflow.Evaluation
import Dataflow.Formula.Basic
import Dataflow.Formula.Error
import Dataflow.Formula.Evaluate
import Dataflow.Formula.Grammar
import Dataflow.Formula.Lexer
import Dataflow.Formula.Token
import Dataflow.Graph.Basic
import Dataflow.Graph.Closure
import Dataflow.Graph.Order
import Dataflow.Json.Basic
import Dataflow.Json.Meaning
import Dataflow.Json.Raw
import Dataflow.Json.Writer
import Dataflow.Kind.Basic
import Dataflow.Kind.Operation
import Dataflow.Main
import Dataflow.Node
import Dataflow.Program.Compile
import Dataflow.Program.Naming
import Dataflow.Program.Options
import Dataflow.Proofs.Binding
import Dataflow.Proofs.Decimal.Rounding
import Dataflow.Proofs.Decimal.Written
import Dataflow.Proofs.Engine.Changes
import Dataflow.Proofs.Engine.Confluence
import Dataflow.Proofs.Engine.Course
import Dataflow.Proofs.Engine.Cycle
import Dataflow.Proofs.Engine.Ending
import Dataflow.Proofs.Engine.Failure
import Dataflow.Proofs.Engine.Notices
import Dataflow.Proofs.Engine.Operation
import Dataflow.Proofs.Engine.Pass
import Dataflow.Proofs.Engine.Propagation
import Dataflow.Proofs.Engine.Settled
import Dataflow.Proofs.Engine.Staging
import Dataflow.Proofs.Engine.Steady
import Dataflow.Proofs.Engine.Truth
import Dataflow.Proofs.Engine.Typing
import Dataflow.Proofs.Evaluation
import Dataflow.Proofs.Formula.Chain
import Dataflow.Proofs.Formula.Climbing
import Dataflow.Proofs.Formula.Depth
import Dataflow.Proofs.Formula.Evaluation
import Dataflow.Proofs.Formula.Lexing
import Dataflow.Proofs.Formula.Location
import Dataflow.Proofs.Formula.Nesting
import Dataflow.Proofs.Formula.Reading
import Dataflow.Proofs.Formula.RoundTrip
import Dataflow.Proofs.Graph.Acyclic
import Dataflow.Proofs.Graph.Closure
import Dataflow.Proofs.Graph.History
import Dataflow.Proofs.Graph.Order
import Dataflow.Proofs.Graph.Path
import Dataflow.Proofs.Graph.Postorder
import Dataflow.Proofs.Graph.Removal
import Dataflow.Proofs.Graph.Spread
import Dataflow.Proofs.Graph.Store
import Dataflow.Proofs.Graph.Table
import Dataflow.Proofs.Graph.Walk
import Dataflow.Proofs.Json.Figures
import Dataflow.Proofs.Json.Grammar
import Dataflow.Proofs.Json.Number
import Dataflow.Proofs.Json.RoundTrip
import Dataflow.Proofs.Program.Account
import Dataflow.Proofs.Program.Agreement
import Dataflow.Proofs.Program.Assignment
import Dataflow.Proofs.Program.Blueprint
import Dataflow.Proofs.Program.Defaults
import Dataflow.Proofs.Program.Draft
import Dataflow.Proofs.Program.Entry
import Dataflow.Proofs.Program.Identifier
import Dataflow.Proofs.Program.Line
import Dataflow.Proofs.Program.Naming
import Dataflow.Proofs.Program.Omission
import Dataflow.Proofs.Program.Reading
import Dataflow.Proofs.Program.Refusal
import Dataflow.Proofs.Program.Session
import Dataflow.Proofs.Program.Statement
import Dataflow.Proofs.Program.Structure
import Dataflow.Proofs.Slicing
import Dataflow.Proofs.Slots
import Dataflow.Proofs.Snapshot.Encoded
import Dataflow.Proofs.Snapshot.Loading
import Dataflow.Proofs.Snapshot.Readable
import Dataflow.Proofs.Snapshot.Restoring
import Dataflow.Proofs.Snapshot.Rewriting
import Dataflow.Proofs.Sorting.Arranged
import Dataflow.Proofs.Sorting.Runs
import Dataflow.Proofs.Sorting.Small
import Dataflow.Proofs.Text.Integer
import Dataflow.Proofs.Text.Quoted
import Dataflow.Proofs.Text.Splitting
import Dataflow.Proofs.Value.Bits
import Dataflow.Proofs.Value.Json
import Dataflow.Proofs.Value.Literal
import Dataflow.Proofs.Value.Order
import Dataflow.Proofs.Value.Place
import Dataflow.Proofs.Value.Ranking
import Dataflow.Proofs.Value.Same
import Dataflow.Proofs.Value.Sign
import Dataflow.Proofs.Value.Sorting
import Dataflow.Proofs.Value.Zero
import Dataflow.Proofs.Wiring
import Dataflow.Snapshot.Decode
import Dataflow.Snapshot.Document
import Dataflow.Snapshot.Export
import Dataflow.Snapshot.Read
import Dataflow.Sorting.Runs
import Dataflow.Sorting.Small
import Dataflow.Table
import Dataflow.Text.Blank
import Dataflow.Text.Case
import Dataflow.Text.CaseTable
import Dataflow.Text.Identifier
import Dataflow.Text.IdentifierTable
import Dataflow.Text.Integer
import Dataflow.Text.Quoted
import Dataflow.Text.Search
import Dataflow.Value.Basic
import Dataflow.Value.Display
import Dataflow.Value.Json
import Dataflow.Value.Order
