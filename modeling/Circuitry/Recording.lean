import Circuitry.Compiler
import Circuitry.Graph.Schedule
import Circuitry.Numbered

/-!
The recording backend: it compiles every node to a tag and a circuit to the list of tags in the
order in which the nodes were visited.

Its state holds switches that make a run fail, or register circuits, at given moments.
-/

namespace Circuitry.Recording

/-- The tags of a circuit with their number. -/
abbrev Tape := Numbered (List String)

def Tape.outline (tape : Tape) : String :=
  Text.record "RecordedCircuit"
    [("id", toString tape.number),
     ("layers", Text.bracketed (tape.content.map Text.quoted))]

/-- The switches of the recording backend. -/
structure Switches (κ : Type) [Vocabulary κ] where
  /-- Fail when so many tags have been recorded at the end of a layer. -/
  failAfterLayers : Option Nat := none
  /-- Register the result from within the run. -/
  selfRegister : Bool := false
  /-- Fail at the end of the run. -/
  failAfterRegister : Bool := false
  /-- Register an empty tape for the circuit from within the run. -/
  registerDecoy : Bool := false
  /-- Register this circuit too from within the run. -/
  sideCircuit : Option (Circuit κ) := none
  /-- Register the side circuit with the result instead of an empty tape. -/
  sideSharesResult : Bool := false

/-- The state of the recording backend. -/
structure State (κ : Type) [Vocabulary κ] where
  pipelineRuns : Nat := 0
  switches : Switches κ := {}
  /-- The number of the latest tape. -/
  lastNumber : Nat := 0
  /-- What tells the tapes of this backend from those of others. -/
  origin : Nat := 0

section

variable {κ : Type} [Vocabulary κ]

/-- The outline of the backend. -/
def State.outline (state : State κ) : String :=
  Text.record "RecordingBackend"
    [("pipeline_runs", toString state.pipelineRuns),
     ("fail_after_layers", Text.optional (state.switches.failAfterLayers.map toString)),
     ("self_register", Text.boolean state.switches.selfRegister),
     ("fail_after_register", Text.boolean state.switches.failAfterRegister),
     ("register_decoy", Text.boolean state.switches.registerDecoy),
     ("register_side", Text.optional (state.switches.sideCircuit.map Circuit.outline)),
     ("side_shares_result", Text.boolean state.switches.sideSharesResult),
     ("next_id", toString state.lastNumber)]

end

/-- The target of the recording backend. -/
def target (κ : Type) [Vocabulary κ] : Target where
  name := "recording"
  Value _ := String
  Output := Tape
  State := State κ
  same := inferInstance
  equivalence := inferInstance
  outline := Tape.outline

section

variable {κ : Type} [Vocabulary κ]

/-- Changes the state of the backend. -/
def changeState (change : State κ → State κ) : Script κ (target κ) Unit :=
  Script.update change

/-- The state of the backend. -/
def currentState : Script κ (target κ) (State κ) := do
  let seen ← Script.view
  return seen.state

/-- Gives tags the next number. -/
def newTape (tags : List String) : Script κ (target κ) Tape := do
  changeState fun state => { state with lastNumber := state.lastNumber + 1 }
  let state ← currentState
  return ⟨state.origin, state.lastNumber, tags⟩

/-! ## Visiting the nodes -/

/-- Compiles a node to its tag. -/
def recordNode (category : Category) (node : Node κ) : Script κ (target κ) String :=
  Script.compileNode category node

/-- Records a parameter node, its initializer first. -/
def recordParameterNode (tags : List String) (entry : ParameterEntry κ) :
    Script κ (target κ) (List String) := do
  match entry.initializer with
  | none =>
    let tag ← recordNode .parameter entry.node
    return tags ++ [tag]
  | some initializer =>
    let initial ← recordNode .initializer initializer
    let tag ← recordNode .parameter entry.node
    return tags ++ [initial, tag]

/-- Records parameter nodes in turn. -/
def recordParameterNodes : List String → List (Nat × ParameterEntry κ) →
    Script κ (target κ) (List String)
  | tags, [] => pure tags
  | tags, (_, entry) :: rest => do
    let more ← recordParameterNode tags entry
    recordParameterNodes more rest

/-- Records parameter graphs in turn. -/
def recordParameters : List String → List (String × ParameterGraph κ) →
    Script κ (target κ) (List String)
  | tags, [] => pure tags
  | tags, (_, graph) :: rest => do
    let more ← recordParameterNodes tags graph.schedule
    recordParameters more rest

/-- Records layers in turn; fails at the end of a layer when the number of tags is the limit. -/
def recordLayers (limit : Option Nat) : List String → List (Nat × LayerEntry κ) →
    Script κ (target κ) (List String)
  | tags, [] => pure tags
  | tags, (_, entry) :: rest => do
    let withParameters ← recordParameters tags entry.parameters
    let tag ← recordNode .layer entry.node
    let more := withParameters ++ [tag]
    if limit = some more.length then Script.fail (.pipeline "injected failure")
    else recordLayers limit more rest

/-! ## The pipeline -/

/-- Registers an empty tape for the circuit, if the switch is set. -/
def registerDecoy (circuit : Circuit κ) : Script κ (target κ) Unit := do
  let state ← currentState
  if state.switches.registerDecoy then
    let decoy ← newTape []
    Script.register circuit decoy
  else pure ()

/-- Registers the side circuit, if there is one. -/
def registerSide (result : Tape) : Script κ (target κ) Unit := do
  let state ← currentState
  match state.switches.sideCircuit with
  | none => pure ()
  | some side =>
    let value ← if state.switches.sideSharesResult then pure result else newTape []
    Script.register side value

/-- Registers the result, if the switch is set. -/
def registerSelf (circuit : Circuit κ) (result : Tape) : Script κ (target κ) Unit := do
  let state ← currentState
  if state.switches.selfRegister then Script.register circuit result else pure ()

/-- Fails, if the switch is set. -/
def failAtEnd : Script κ (target κ) Unit := do
  let state ← currentState
  if state.switches.failAfterRegister then Script.fail (.pipeline "failed after registering")
  else pure ()

/-- The pipeline: counts the run, records the circuit, and does what the switches ask for. -/
def pipeline (circuit : Circuit κ) : Script κ (target κ) Tape := do
  changeState fun state => { state with pipelineRuns := state.pipelineRuns + 1 }
  let state ← currentState
  let tags ← recordLayers state.switches.failAfterLayers [] (circuit.schedule true)
  registerDecoy circuit
  let result ← newTape tags
  registerSide result
  registerSelf circuit result
  failAtEnd
  return result

def backend : Backend κ where
  target := target κ
  pipeline := pipeline

end

end Circuitry.Recording
