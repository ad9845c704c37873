import Circuitry.Compiler
import Circuitry.Graph.Schedule
import Circuitry.Reference.Program

/-!
The reference pipeline: from circuits to programs.

The layers are compiled in topological order, or all of them in the order in which they were
added.  Each layer compiles its parameter graphs first, node by node, an initializer before its
node.  References become positions among what has been compiled so far.
-/

namespace Circuitry.Reference

/-- Pipeline runs and completed rule applications, those of failed runs included. -/
structure Stats where
  pipelineRuns : Nat := 0
  layerRules : Nat := 0
  parameterRules : Nat := 0
  initializerRules : Nat := 0
  deriving DecidableEq, Repr

/-- The state of the reference backend. -/
structure State where
  stats : Stats := {}
  /-- The number of the latest handle. -/
  lastNumber : Nat := 0
  /-- What tells the handles of this backend from those of others. -/
  origin : Nat := 0
  deriving DecidableEq, Repr

namespace State

/-- Counts a run of the pipeline. -/
def countRun (state : State) : State :=
  { state with stats := { state.stats with pipelineRuns := state.stats.pipelineRuns + 1 } }

/-- Counts a completed rule application of a category. -/
def countRule (category : Category) (state : State) : State :=
  let stats := state.stats
  { state with
    stats :=
      match category with
      | .layer => { stats with layerRules := stats.layerRules + 1 }
      | .parameter => { stats with parameterRules := stats.parameterRules + 1 }
      | .initializer => { stats with initializerRules := stats.initializerRules + 1 } }

/-- Takes the next number for a handle. -/
def takeNumber (state : State) : State :=
  { state with lastNumber := state.lastNumber + 1 }

/-- The outline of the backend. -/
def outline (state : State) : String :=
  Text.record "RefBackend"
    [("stats", Text.record "RefStats"
      [("pipeline_runs", toString state.stats.pipelineRuns),
       ("layer_rules", toString state.stats.layerRules),
       ("parameter_rules", toString state.stats.parameterRules),
       ("initializer_rules", toString state.stats.initializerRules)]),
     ("next_id", toString state.lastNumber)]

end State

/-- The values of nodes by category. -/
def Value : Category → Type
  | .layer => LayerOp
  | .parameter => ParameterOp
  | .initializer => Initializer

/-- The target of the reference backend. -/
def target : Target where
  name := "ref"
  Value := Value
  Output := Handle
  State := State
  same := inferInstance
  equivalence := inferInstance
  outline := Handle.outline

/-- Changes the state of the backend. -/
def changeState {κ : Type} [Vocabulary κ] (change : State → State) : Script κ target Unit :=
  Script.update change

/-- The state of the backend. -/
def currentState {κ : Type} [Vocabulary κ] : Script κ target State := do
  let seen ← Script.view
  return seen.state

/-- What a link between nodes that is turned into a position stands for. -/
inductive Link
  | layerInput
  | output
  | parameterInput
  | parameterOutput
  deriving DecidableEq, Repr

/-- A link in the words of an error. -/
def Link.describe (index : Nat) : Link → String
  | .layerInput => "layer " ++ Text.applied "LayerId" (toString index)
  | .output => "output " ++ Text.applied "LayerId" (toString index)
  | .parameterInput => "parameter " ++ Text.applied "ParamId" (toString index)
  | .parameterOutput => "parameter output " ++ Text.applied "ParamId" (toString index)

variable {κ : Type} [Vocabulary κ]

/-- The position of an index among those placed so far. -/
def position (link : Link) (placed : List Nat) (index : Nat) :
    Except (Failure κ target) Nat :=
  match placed.idxOf? index with
  | some found => .ok found
  | none =>
    .error (.pipeline (link.describe index ++ " was not compiled before its use"))

/-- The positions of a list of indices. -/
def positions (link : Link) (placed : List Nat) :
    List Nat → Except (Failure κ target) (List Nat)
  | [] => .ok []
  | index :: rest =>
    match position link placed index with
    | .error error => .error error
    | .ok found =>
      match positions link placed rest with
      | .error error => .error error
      | .ok others => .ok (found :: others)

def applyCounted (category : Category) (node : Node κ) : Script κ target (Value category) := do
  let value ← Script.compileNode category node
  changeState (State.countRule category)
  return value

/-- Compiles the initializer of a parameter node, if it has one. -/
def assembleInitializer : Option (Node κ) → Script κ target (Option Initializer)
  | none => pure none
  | some node => do
    let initializer ← applyCounted .initializer node
    return some initializer

/-- Compiles scheduled parameter nodes after those placed already. -/
def assembleNodes : List Nat → List (Nat × ParameterEntry κ) →
    Script κ target (List ParameterNode)
  | _, [] => pure []
  | placed, (index, entry) :: rest => do
    let inputs ← Script.ofExcept (positions .parameterInput placed entry.inputs)
    let initializer ← assembleInitializer entry.initializer
    let op ← applyCounted .parameter entry.node
    let later ← assembleNodes (placed ++ [index]) rest
    return ⟨op, inputs, initializer⟩ :: later

/-- Compiles a parameter graph. -/
def assembleParameter (graph : ParameterGraph κ) : Script κ target Parameter := do
  let nodes ← assembleNodes [] graph.schedule
  let output ← Script.ofExcept
    (position .parameterOutput (graph.schedule.map (·.1)) graph.output)
  return ⟨nodes, output⟩

/-- Compiles named parameter graphs in turn; a later graph replaces an earlier one of its name. -/
def assembleParameters (compiled : NameMap Parameter) :
    List (String × ParameterGraph κ) → Script κ target (NameMap Parameter)
  | [] => pure compiled
  | (name, graph) :: rest => do
    let parameter ← assembleParameter graph
    assembleParameters (compiled.insert name parameter) rest

/-- Compiles scheduled layers after those placed already. -/
def assembleLayers : List Nat → List (Nat × LayerEntry κ) → Script κ target (List Layer)
  | _, [] => pure []
  | placed, (index, entry) :: rest => do
    let inputs ← Script.ofExcept (positions .layerInput placed entry.inputs)
    let parameters ← assembleParameters .empty entry.parameters
    let op ← applyCounted .layer entry.node
    let later ← assembleLayers (placed ++ [index]) rest
    return ⟨op, inputs, parameters⟩ :: later

def assembleProgram (circuit : Circuit κ) (options : Options) : Script κ target Program := do
  let schedule := circuit.schedule options.prune
  Script.note "compiling circuit layers"
    [("layers", .count schedule.length),
     ("skipped", .count (circuit.layers.size - schedule.length)),
     ("semiring", .text options.semiring.label)]
  let layers ← assembleLayers [] schedule
  let outputs ← Script.ofExcept (positions .output (schedule.map (·.1)) circuit.outputs)
  return ⟨circuit.name, options.semiring, layers, outputs⟩

/-- The pipeline: counts the run, reads the options, and gives the program a new handle. -/
def pipeline (circuit : Circuit κ) : Script κ target Handle := do
  changeState State.countRun
  let seen ← Script.view
  let options ← Script.ofExcept ((Options.ofFlags seen.flags).mapError .flag)
  let program ← assembleProgram circuit options
  changeState State.takeNumber
  let state ← currentState
  return ⟨state.origin, state.lastNumber, program⟩

def backend : Backend κ where
  target := target
  pipeline := pipeline

end Circuitry.Reference
