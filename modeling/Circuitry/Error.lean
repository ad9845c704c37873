import Circuitry.Flag.Basic
import Circuitry.Registry
import Circuitry.Ledger

/-!
What can go wrong in a compilation, by cause.

The type of compiled circuits is a parameter, since some errors name compiled circuits; the words
of an error need their outline.
-/

namespace Circuitry

/-- An error of a compiler, over node kinds and compiled circuits. -/
inductive CompileError (κ γ : Type)
  | registry (error : RegistryError κ)
  /-- A registry of one category is handed over for another. -/
  | registrySlot (slot found : Category)
  /-- A rule for one kind is applied to a node of another. -/
  | kindMismatch (expected found : κ)
  /-- A circuit that has not been compiled is looked up. -/
  | neverCompiled (circuit : CircuitId)
  /-- A compiled circuit that belongs to no circuit is looked up. -/
  | unknownOutput (output : γ)
  /-- A circuit is registered twice. -/
  | circuitTaken (circuit : CircuitId) (existing : γ)
  /-- A compiled circuit is registered twice. -/
  | outputTaken (output : γ) (holder : CircuitId)
  /-- A pipeline returns something else than it has registered. -/
  | conflictingResult (circuit : CircuitId) (registered returned : γ)
  | flag (error : FlagError)
  | unsupportedBackend (name : String)
  | build (error : BuildError κ)
  /-- A rule or a pipeline fails, in its own words. -/
  | pipeline (message : String)
  deriving DecidableEq

namespace CompileError

variable {κ γ δ : Type}

/-- The error with every compiled circuit replaced. -/
def mapOutput (change : γ → δ) : CompileError κ γ → CompileError κ δ
  | .registry error => .registry error
  | .registrySlot slot found => .registrySlot slot found
  | .kindMismatch expected found => .kindMismatch expected found
  | .neverCompiled circuit => .neverCompiled circuit
  | .unknownOutput output => .unknownOutput (change output)
  | .circuitTaken circuit existing => .circuitTaken circuit (change existing)
  | .outputTaken output holder => .outputTaken (change output) holder
  | .conflictingResult circuit registered returned =>
    .conflictingResult circuit (change registered) (change returned)
  | .flag error => .flag error
  | .unsupportedBackend name => .unsupportedBackend name
  | .build error => .build error
  | .pipeline message => .pipeline message

/-- The error that a conflict in the ledger of compiled circuits means. -/
def ofConflict [Vocabulary κ] (circuit : Circuit κ) (output : γ) :
    LedgerConflict (Circuit κ) γ → CompileError κ γ
  | .keyTaken existing => .circuitTaken circuit.id existing
  | .valueTaken holder => .outputTaken output holder.id

/-- The error in words, given the outlines of compiled circuits. -/
def message [Vocabulary κ] : CompileError κ String → String
  | .registry error => error.message
  | .registrySlot slot found =>
    found.label ++ " rule registry passed in the " ++ slot.label ++ " registry slot"
  | .kindMismatch expected found =>
    "rule for `" ++ Vocabulary.name expected ++ "` was invoked on a `" ++ Vocabulary.name found
      ++ "` node"
  | .neverCompiled circuit =>
    "symbolic circuit not found: " ++ circuit.display ++ " was never compiled"
  | .unknownOutput output =>
    "compiled circuit not found: " ++ output ++ " has no symbolic counterpart"
  | .circuitTaken circuit existing =>
    "symbolic circuit is already registered: " ++ circuit.display ++ " already maps to "
      ++ existing
  | .outputTaken output holder =>
    "compiled circuit is already registered: " ++ output ++ " already maps to " ++ holder.display
  | .conflictingResult circuit registered returned =>
    "symbolic circuit is already registered: pipeline registered " ++ registered ++ " for "
      ++ circuit.display ++ " but returned " ++ returned
  | .flag error => error.message
  | .unsupportedBackend name => "unsupported backend `" ++ name ++ "`"
  | .build error => error.message
  | .pipeline message => "compilation pipeline failed: " ++ message

end CompileError

end Circuitry
