import Circuitry.Text.Blank
import Circuitry.Text.Truth
import Circuitry.Text.Outline
import Circuitry.Text.Quoted
import Circuitry.Number.Layout
import Circuitry.Number.Numeral
import Circuitry.NameMap
import Circuitry.Json.Text
import Circuitry.Json.Number
import Circuitry.Flag.Settings
import Circuitry.Flag.Json
import Circuitry.Graph.Circuit
import Circuitry.Error
import Circuitry.Compiler
import Circuitry.Catalogue.Kind
import Circuitry.Reference.Assembly
import Circuitry.Reference.Defaults
import Circuitry.Recording
import Circuitry.Backends
import Circuitry.Check
import Circuitry.Workbench.Plan
import Circuitry.Workbench.Platform
import Circuitry.Workbench.Circuits
import Circuitry.Workbench.FlagSets
import Circuitry.Workbench.Ledgers
import Circuitry.Workbench.Compilers
import Circuitry.Workbench.Step
import Circuitry.Proofs.Ledger.History
import Circuitry.Proofs.Compiler.Atomicity
import Circuitry.Proofs.Compiler.Memoization
import Circuitry.Proofs.Reference.Faithful
import Circuitry.Proofs.Traversal.Topological
import Circuitry.Proofs.Graph.Built
import Circuitry.Proofs.Graph.Order
import Circuitry.Proofs.Compiler.Visits
import Circuitry.Proofs.Reference.Visits
import Circuitry.Proofs.NameMap.Entries
import Circuitry.Proofs.Reference.Renumbering
import Circuitry.Proofs.Reference.WellFormed
import Circuitry.Proofs.Reference.Pruning
import Circuitry.Proofs.Reference.DefaultRules
import Circuitry.Proofs.Compiler.Compilation
import Circuitry.Proofs.Reference.Initializers
import Circuitry.Proofs.Compiler.Provision
import Circuitry.Proofs.Compiler.Chronicle
import Circuitry.Proofs.Compiler.Outcome
import Circuitry.Proofs.Compiler.Restraint
import Circuitry.Proofs.Reference.Assembling
import Circuitry.Proofs.Reference.Numbering
import Circuitry.Proofs.Reference.Progress
import Circuitry.Proofs.Reference.Handles
import Circuitry.Proofs.Reference.Identity
import Circuitry.Proofs.Reference.Independence
import Circuitry.Proofs.Registry.Dispatch
import Circuitry.Proofs.Compiler.Slots
import Circuitry.Proofs.Flag.Json
import Circuitry.Proofs.Graph.Faults
import Circuitry.Proofs.Graph.Building
import Circuitry.Proofs.Compiler.EventLog
import Circuitry.Proofs.Compiler.Dispatch
import Circuitry.Proofs.Recording.Visits
import Circuitry.Proofs.Recording.Counterparts
import Circuitry.Proofs.Number.Rounding
import Circuitry.Proofs.Number.Shortest
import Circuitry.Proofs.Json.Float
import Circuitry.Proofs.Json.Layout
import Circuitry.Proofs.Flag.Saved
import Circuitry.Proofs.Catalogue.Power
import Circuitry.Proofs.Reference.OuterProduct
import Circuitry.Proofs.Reference.FirstFault
import Circuitry.Proofs.Reference.Installation
import Circuitry.Proofs.Reference.NamedParameters
import Circuitry.Proofs.Registry.Nearest
import Circuitry.Proofs.Flag.Integers
import Circuitry.Proofs.Traversal.Recursive
import Circuitry.Proofs.Compiler.Workload
import Circuitry.Proofs.Recording.Limit
import Circuitry.Proofs.Compiler.Aloof
import Circuitry.Proofs.Reference.Statistics
import Circuitry.Proofs.Flag.LastWrite
import Circuitry.Proofs.Traversal.Loop
import Circuitry.Proofs.TypePath.Short
