import Circuitry.Check
import Circuitry.Recording
import Circuitry.Reference.Defaults

/-!
Platforms: the backends of a workbench, behind one set of operations.
-/

namespace Circuitry.Workbench

/-- A compiled circuit of one of the backends. -/
inductive Compiled
  | program (handle : Reference.Handle)
  | tape (tape : Recording.Tape)

namespace Compiled

/-- The number of a compiled circuit. -/
def number : Compiled → Nat
  | program handle => handle.number
  | tape recording => recording.number

/-- How two compiled circuits of one backend compare: as handles, as the same value, and by
content. -/
def compare : Compiled → Compiled → Option (Bool × Bool × Bool)
  | program left, program right =>
    some (left == right, left.isSame right, left.content.agrees right.content)
  | tape left, tape right =>
    some (left == right, left.isSame right, left.content == right.content)
  | _, _ => none

end Compiled

/-- The value of a node on one of the backends. -/
inductive NodeValue
  | layer (op : Reference.LayerOp)
  | parameter (op : Reference.ParameterOp)
  | initializer (initializer : Reference.Initializer)
  | tag (tag : String)

/-- A change of one switch of the recording backend. -/
inductive SwitchChange
  | failAfterLayers (limit : Option Nat)
  | selfRegister (on : Bool)
  | failAfterRegister (on : Bool)
  | registerDecoy (on : Bool)
  | sideCircuit (circuit : Option (Circuit Kind))
  | sideSharesResult (on : Bool)

def SwitchChange.apply (switches : Recording.Switches Kind) :
    SwitchChange → Recording.Switches Kind
  | failAfterLayers limit => { switches with failAfterLayers := limit }
  | selfRegister on => { switches with selfRegister := on }
  | failAfterRegister on => { switches with failAfterRegister := on }
  | registerDecoy on => { switches with registerDecoy := on }
  | sideCircuit circuit => { switches with sideCircuit := circuit }
  | sideSharesResult on => { switches with sideSharesResult := on }

/-- A backend with what a workbench does to it. -/
structure Platform where
  backend : Backend Kind
  /-- The state of a new backend of an origin. -/
  start : Nat → backend.target.State
  /-- Adds the rules that come with the backend. -/
  standardRules : Script Kind backend.target Unit
  /-- The value of a planned rule with a tag and a number. -/
  value : (category : Category) → String → UInt64 → backend.target.Value category
  display : (category : Category) → backend.target.Value category → NodeValue
  toCompiled : backend.target.Output → Compiled
  ofCompiled? : Compiled → Option backend.target.Output
  configure : List SwitchChange → backend.target.State → backend.target.State
  statistics : backend.target.State → List (String × Nat)
  outline : backend.target.State → String

namespace Platform

/-- A value that the reference backend makes from a number. -/
def referenceValue (number : UInt64) : (category : Category) → Reference.Value category
  | .layer => Reference.LayerOp.hadamard number 0
  | .parameter => Reference.ParameterOp.softmax number
  | .initializer => Reference.Initializer.constant (.ofInt number.toNat)

/-- A value of the reference backend. -/
def referenceDisplay : (category : Category) → Reference.Value category → NodeValue
  | .layer, op => .layer op
  | .parameter, op => .parameter op
  | .initializer, initializer => .initializer initializer

/-- The statistics of the reference backend. -/
def referenceStatistics (state : Reference.State) : List (String × Nat) :=
  [("pipeline_runs", state.stats.pipelineRuns),
   ("layer_rules", state.stats.layerRules),
   ("parameter_rules", state.stats.parameterRules),
   ("initializer_rules", state.stats.initializerRules)]

/-- The platform of the reference backend. -/
def reference : Platform where
  backend := Reference.backend
  start origin := ({ origin := origin } : Reference.State)
  standardRules := Reference.addDefaultRules
  value category _ number := referenceValue number category
  display := referenceDisplay
  toCompiled := Compiled.program
  ofCompiled?
    | .program handle => some handle
    | .tape _ => none
  configure _ state := state
  statistics := referenceStatistics
  outline := Reference.State.outline

/-- The platform of the recording backend. -/
def recording : Platform where
  backend := Recording.backend
  start origin := ({ origin := origin } : Recording.State Kind)
  standardRules := pure ()
  value _ tag _ := tag
  display _ tag := NodeValue.tag tag
  toCompiled := Compiled.tape
  ofCompiled?
    | .program _ => none
    | .tape recording => some recording
  configure changes state :=
    let before : Recording.State Kind := state
    { before with switches := changes.foldl SwitchChange.apply before.switches }
  statistics state :=
    let state : Recording.State Kind := state
    [("pipeline_runs", state.pipelineRuns)]
  outline := Recording.State.outline

end Platform

/-- The platforms that a workbench offers. -/
inductive PlatformChoice
  | reference
  | recording
  deriving DecidableEq, Repr

/-- The platform that is chosen. -/
def PlatformChoice.platform : PlatformChoice → Platform
  | .reference => Platform.reference
  | .recording => Platform.recording

end Circuitry.Workbench
