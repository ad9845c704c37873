import Circuitry.Backends
import Circuitry.Catalogue.Kind
import Circuitry.Script

/-!
Planned rules: rules written as a list of acts.

Each act has a window, which says during which invocations of the rule it is done.  The value of
the rule is that of the last node it delegates to, or else made from the rule's tag and number.
-/

namespace Circuitry.Workbench

/-- The invocations of a rule during which something is done, counted from zero. -/
structure Window where
  first : Nat := 0
  stop : Option Nat := none
  deriving DecidableEq, Repr

/-- Whether a window is open for an invocation that so many preceded. -/
def Window.isOpen (window : Window) (earlier : Nat) : Bool :=
  window.first ≤ earlier &&
    match window.stop with
    | none => true
    | some stop => earlier < stop

/-- Something that a rule does.  Circuits and compiled circuits are named. -/
inductive Act
  | compile (circuit : String)
  | register (circuit output : String)
  /-- Appends the text of a flag to the tag. -/
  | readFlag (name default : String)
  /-- Lets the rule of another node make the value. -/
  | delegate (node : Node Kind)
  | fail (message : String)
  | rejectFlag (name reason : String)
  | requireBackend (name : String)
  /-- Finishes a circuit without layers, which fails. -/
  | finishNothing

/-- What a rule does, in order. -/
inductive Plan
  | finished
  | doing (window : Window) (act : Act) (rest : Plan)
  /-- Adds another planned rule. -/
  | addRule (window : Window) (category : Category) (kind : Kind) (tag : String)
      (number : UInt64) (plan : Plan) (rest : Plan)

/-- A rule: the tag it is counted under, a number for its value, and what it does. -/
structure PlannedRule where
  tag : String
  number : UInt64
  plan : Plan

/-- What the names in a plan stand for, and how a value is made from a tag and a number. -/
structure Surroundings (target : Target) where
  circuit : String → Option (Circuit Kind)
  output : String → Option target.Output
  value : (category : Category) → String → UInt64 → target.Value category

/-- How far a rule has come: its tag, and the value it was delegated. -/
structure Progress (target : Target) (category : Category) where
  tag : String
  value : Option (target.Value category)

variable {target : Target}

/-- What a name stands for; it is an error if it stands for nothing. -/
def resolve {α : Type} (found : Option α) (name : String) : Script Kind target α :=
  match found with
  | some value => pure value
  | none => Script.fail (.pipeline ("unknown name " ++ name))

def Act.perform (surroundings : Surroundings target) {category : Category}
    (progress : Progress target category) : Act → Script Kind target (Progress target category)
  | .compile name => do
    let circuit ← resolve (surroundings.circuit name) name
    let _ ← Script.compile circuit
    return progress
  | .register name outputName => do
    let circuit ← resolve (surroundings.circuit name) name
    let output ← resolve (surroundings.output outputName) outputName
    Script.register circuit output
    return progress
  | .readFlag name default => do
    let seen ← Script.view
    let text ← Script.ofExcept ((seen.flags.textOr name default).mapError .flag)
    return { progress with tag := progress.tag ++ text }
  | .delegate node => do
    let value ← Script.compileNode category node
    return { progress with value := some value }
  | .fail message => Script.fail (.pipeline message)
  | .rejectFlag name reason => Script.fail (.flag (.rejected name reason))
  | .requireBackend name => do
    Script.ofExcept (requireSelectableBackend name)
    return progress
  | .finishNothing => do
    let _ ← Script.finishCircuit (.named none) [3]
    return progress

/-- Does what a plan says, for an invocation that so many preceded.  The rule is known by a path,
and the rules it adds by that path and their place in the plan. -/
def Plan.perform (surroundings : Surroundings target) (rule : List Nat) {category : Category}
    (earlier place : Nat) (progress : Progress target category) :
    Plan → Script Kind target (Progress target category)
  | .finished => pure progress
  | .doing window act rest => do
    let later ← if window.isOpen earlier then act.perform surroundings progress else pure progress
    rest.perform surroundings rule earlier (place + 1) later
  | .addRule window added kind tag number plan rest => do
    if window.isOpen earlier then
      Script.addRule added kind fun _ => do
        let before ← Script.countInvocation (place :: rule) tag
        let start : Progress target added := ⟨tag, none⟩
        let final ← plan.perform surroundings (place :: rule) before 0 start
        return final.value.getD (surroundings.value added final.tag number)
    else pure ()
    rest.perform surroundings rule earlier (place + 1) progress

/-- The script of a planned rule, which counts its invocations first. -/
def PlannedRule.script (planned : PlannedRule) (surroundings : Surroundings target)
    (rule : List Nat) (category : Category) : Script Kind target (target.Value category) := do
  let earlier ← Script.countInvocation rule planned.tag
  let start : Progress target category := ⟨planned.tag, none⟩
  let final ← planned.plan.perform surroundings rule earlier 0 start
  return final.value.getD (surroundings.value category final.tag planned.number)

end Circuitry.Workbench
