import Circuitry.Vocabulary

/-!
What can be wrong with a step that builds a circuit or a parameter graph.
-/

namespace Circuitry

/-- A fault in building a graph. -/
inductive BuildError (κ : Type)
  /-- A node in a slot of another category. -/
  | misplaced (slot : Category) (kind : κ)
  /-- A reference to a node that has not been added. -/
  | unknownReference (slot : Category) (index size : Nat)
  /-- A circuit is finished without outputs. -/
  | circuitWithoutOutputs
  /-- A parameter graph is finished without nodes. -/
  | parameterGraphWithoutNodes
  deriving DecidableEq

namespace BuildError

variable {κ : Type} [Vocabulary κ]

/-- The fault in words. -/
def message : BuildError κ → String
  | .misplaced slot kind =>
    slot.label ++ " slot expects a " ++ slot.label ++ " node, got "
      ++ (Vocabulary.category kind).label ++ " `" ++ Vocabulary.name kind ++ "`"
  | .unknownReference slot index size =>
    slot.label ++ " " ++ toString index ++ " does not exist (graph has " ++ toString size
      ++ " entries)"
  | .circuitWithoutOutputs => "circuit has no outputs"
  | .parameterGraphWithoutNodes => "parameter graph has no outputs"

end BuildError

/-- Checks that a node has the category of its slot. -/
def requireCategory {κ : Type} [Vocabulary κ] (slot : Category) (node : Node κ) :
    Except (BuildError κ) Unit :=
  if node.category = slot then .ok () else .error (.misplaced slot node.kind)

/-- Checks that references name nodes that have been added; the first that does not is the
fault. -/
def requireReferences {κ : Type} (slot : Category) (size : Nat) :
    List Nat → Except (BuildError κ) Unit
  | [] => .ok ()
  | index :: rest =>
    if index < size then requireReferences slot size rest
    else .error (.unknownReference slot index size)

end Circuitry
