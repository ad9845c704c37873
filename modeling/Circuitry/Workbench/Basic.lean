import Circuitry.Workbench.Plan
import Circuitry.Workbench.Platform

/-!
The workbench: named circuits, parameter graphs, flags, ledgers, registries and compilers, on
which steps are performed one after the other.

A step has an answer.  A step that fails binds no name, but what it has done to the thing it was
performed on stays.
-/

namespace Circuitry.Workbench

/-! ## What is on a workbench -/

/-- A value in a ledger of its own. -/
inductive Datum
  | integer (value : Int)
  | text (value : String)
  deriving DecidableEq, Repr

def Datum.outline : Datum → String
  | integer value => String.ofList (Numeral.ofInt value)
  | text value => Text.quoted value

/-- An error in which compiled circuits are given by their outlines. -/
abbrev Fault := CompileError Kind String

/-- A rule of a registry of its own: it may write to a log. -/
abbrev LoggedRule := Node Kind → List String → Except Fault String × List String

/-- A compiler on its platform. -/
structure Hosted where
  platform : Platform
  compiler : Compiler Kind platform.backend.target

/-- The things on a workbench, by name, and what has happened. -/
structure Bench where
  /-- The setting that may ask for duplicate rules to be overwritten. -/
  overwriteSetting : Option String := none
  supply : Supply := {}
  circuits : NameMap (Circuit Kind) := .empty
  graphs : NameMap (ParameterGraph Kind) := .empty
  flags : NameMap Flags := .empty
  ledgers : NameMap (Ledger (Circuit Kind) Datum) := .empty
  registries : NameMap (Registry Kind LoggedRule) := .empty
  compilers : NameMap Hosted := .empty
  compiled : NameMap Compiled := .empty
  events : Array (Event Kind) := #[]
  invocations : List Invocation := []
  /-- The number of planned rules made. -/
  rulesMade : Nat := 0
  /-- The number of compilers made. -/
  compilersMade : Nat := 0

/-- The duplicate policy that the setting asks for. -/
def Bench.policy (bench : Bench) : DuplicatePolicy :=
  .ofVariable bench.overwriteSetting

/-! ## Answers -/

/-- What became of a parameter graph: its nodes one by one, and the graph. -/
structure GraphReport where
  nodes : List (Except (BuildError Kind) Nat)
  graph : Except (BuildError Kind) (ParameterGraph Kind)

/-- What became of a layer. -/
inductive LayerReport
  | added (index : Nat)
  | refused (error : BuildError Kind)
  /-- One of its parameter graphs could not be built. -/
  | badParameter (name : String) (report : GraphReport)

/-- What is told about a compiler. -/
structure CompilerState where
  backend : String
  statistics : List (String × Nat)
  flags : Flags
  /-- The numbers of the circuits and of what they are compiled to. -/
  compiled : List (Nat × Nat)

/-- The answer to a step. -/
inductive Answer
  | ok
  | found
  | absent
  | truth (value : Bool)
  | number (value : Nat)
  | integer (value : Int)
  | float (value : Binary64)
  | text (value : String)
  | indices (values : List Nat)
  | failure (error : Fault)
  | buildFailure (error : BuildError Kind)
  /-- The step breaks off: something that has to be there is not. -/
  | crash
  /-- The step names something that is not on the workbench. -/
  | unknown (name : String)
  | built (layers : List LayerReport) (circuit : Except (BuildError Kind) CircuitId)
  | graphReport (report : GraphReport)
  | graphView (graph : ParameterGraph Kind)
  | circuitView (circuit : Circuit Kind)
  | flags (flags : Flags)
  | flagValue (value : FlagValue)
  | flagsView (flags : Flags)
  | options (options : Reference.Options)
  | ledgerView (ledger : Ledger (Circuit Kind) Datum)
  | size (value : Nat)
  | invoked (outcome : Except Fault String) (log : List String)
  | registryView (registry : Registry Kind Unit)
  | registryViews (registries : List (Registry Kind Unit))
  | nodeValue (value : NodeValue)
  | compiled (number : Nat) (result : Option Compiled)
  | comparison (equal same content : Bool)
  | compilerState (state : CompilerState)
  | counts (counts : List (String × Nat))

/-- The answer to a step and the workbench after it. -/
abbrev Reply : Type 1 := Answer × Bench

namespace Reply

/-- Goes on with what a name stands for. -/
def withNamed {α : Type u} (bench : Bench) (things : NameMap α) (name : String)
    (next : α → Reply) : Reply :=
  match things.get? name with
  | some thing => next thing
  | none => (.unknown name, bench)

/-- Answers a question about what a name stands for. -/
def ofQuestion {α : Type u} (bench : Bench) (things : NameMap α) (name : String)
    (answer : α → Answer) : Reply :=
  withNamed bench things name fun thing => (answer thing, bench)

end Reply

/-- The answer with the value of a computation, or its error. -/
def Answer.ofExcept {ε α : Type} (fault : ε → Fault) (answer : α → Answer) :
    Except ε α → Answer
  | .ok value => answer value
  | .error error => .failure (fault error)

end Circuitry.Workbench
