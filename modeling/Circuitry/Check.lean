import Circuitry.Backends
import Circuitry.Compiler
import Circuitry.Fixture

/-!
Checks: what every compiler with the standard rules has to show.

Each check is a script that fails as soon as something it requires does not hold.  What it did
before stays done.
-/

namespace Circuitry

inductive Check
  /-- The backend can be selected by its name. -/
  | supportedName
  /-- A circuit is compiled once. -/
  | memoization
  /-- Circuits and values are found from each other. -/
  | bijection
  /-- A circuit that cannot be compiled leaves nothing behind. -/
  | cleanFailure
  /-- A rule is used for its own kind only. -/
  | exactKind
  /-- A kind has one rule. -/
  | uniqueRule
  deriving DecidableEq, Repr

namespace Check

variable {target : Target}

/-- Goes on only if something holds. -/
def require (condition : Bool) : Script Kind target Unit :=
  if condition then pure () else Script.fail (.pipeline "requirement not met")

def finish (fixture : Fixture) : Script Kind target (Circuit Kind) :=
  Script.finishCircuit fixture.builder fixture.outputs

/-- The ledger as it stands. -/
def currentLedger : Script Kind target (Ledger (Circuit Kind) target.Output) := do
  let seen ← Script.view
  return seen.ledger

/-- The error of a compilation, which has to fail. -/
def compileError (circuit : Circuit Kind) : Script Kind target (Failure Kind target) :=
  .compiling circuit fun
    | .ok _ => Script.fail (.pipeline "requirement not met")
    | .error error => pure error

/-- The error of a registration of a rule, which has to fail. -/
def addRuleError (category : Category) (kind : Kind)
    (body : kind.Payload → Script Kind target (target.Value category)) :
    Script Kind target (Failure Kind target) :=
  .addingRule category kind body fun
    | .ok _ => Script.fail (.pipeline "requirement not met")
    | .error error => pure error

/-- Whether every pair of a ledger is found from its value. -/
def isInverted (ledger : Ledger (Circuit Kind) target.Output) : Bool :=
  ledger.forward.all fun pair =>
    match ledger.keyOf? pair.2 with
    | some circuit => circuit == pair.1
    | none => false

/-- Whether a circuit is found from a value. -/
def holdsKey (ledger : Ledger (Circuit Kind) target.Output) (output : target.Output)
    (circuit : Circuit Kind) : Bool :=
  match ledger.keyOf? output with
  | some found => found == circuit
  | none => false

/-- Whether a value is found from a circuit. -/
def holdsValue (ledger : Ledger (Circuit Kind) target.Output) (circuit : Circuit Kind)
    (output : target.Output) : Bool :=
  match ledger.valueOf? circuit with
  | some found => found == output
  | none => false

/-- Whether an error says that a layer has no rule. -/
def isMissingLayerRule : Failure Kind target → Bool
  | .registry (.missing .layer _ _) => true
  | _ => false

/-- Whether an error says that the mixing kind has no rule, but the sum kind has. -/
def namesSumForMixing : Failure Kind target → Bool
  | .registry (.missing _ .mixingLayer (some .sumLayer)) => true
  | _ => false

/-- Whether an error says that a kind has a rule already. -/
def isDuplicate : Failure Kind target → Bool
  | .registry (.duplicate _ _) => true
  | _ => false

/-! ## The checks -/

/-- A second compilation of a circuit gives the same value, and one pair is registered. -/
def requireMemoization : Script Kind target Unit := do
  let circuit ← finish .mixture
  let first ← Script.compile circuit
  let second ← Script.compile circuit
  require (first == second)
  let ledger ← currentLedger
  require (ledger.size == 1)

/-- Circuits and values are found from each other. -/
def requireBijection : Script Kind target Unit := do
  let mixture ← finish .mixture
  let gaussian ← finish .scaledGaussian
  let first ← Script.compile mixture
  let second ← Script.compile gaussian
  require !(first == second)
  let ledger ← currentLedger
  require (holdsValue ledger mixture first && holdsValue ledger gaussian second)
  require (holdsKey ledger first mixture && holdsKey ledger second gaussian)
  require (isInverted ledger)

/-- A circuit that cannot be compiled leaves nothing behind. -/
def requireCleanFailure : Script Kind target Unit := do
  let broken ← finish .unregisteredOutput
  let error ← compileError broken
  require (isMissingLayerRule error)
  let ledger ← currentLedger
  require (!ledger.hasKey broken && ledger.isEmpty)
  let healthy ← finish .mixture
  let _ ← Script.compile healthy
  let later ← currentLedger
  require (later.size == 1)

/-- The rule for a supertype is reported, but not used. -/
def requireExactKind : Script Kind target Unit := do
  let seen ← Script.view
  require ((seen.registries .layer).contains Kind.sumLayer)
  let circuit ← finish .mixingOutput
  let error ← compileError circuit
  require (namesSumForMixing error)
  let ledger ← currentLedger
  require !(ledger.hasKey circuit)

/-- A second rule for a kind is refused where the policy is to reject it. -/
def requireUniqueRule : Script Kind target Unit := do
  let before ← Script.view
  if (before.registries .layer).policy = .reject then
    let error ← addRuleError .layer .sumLayer fun _ =>
      Script.fail (.pipeline "replacement rule")
    require (isDuplicate error)
    let after ← Script.view
    require ((after.registries .layer).size == (before.registries .layer).size)
    let circuit ← finish .mixture
    let _ ← Script.compile circuit
  else pure ()

end Check

def Check.script {target : Target} : Check → Script Kind target Unit
  | .supportedName => Check.require (isSelectableBackend target.name)
  | .memoization => Check.requireMemoization
  | .bijection => Check.requireBijection
  | .cleanFailure => Check.requireCleanFailure
  | .exactKind => Check.requireExactKind
  | .uniqueRule => Check.requireUniqueRule

end Circuitry
