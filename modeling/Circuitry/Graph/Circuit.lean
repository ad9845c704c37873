import Circuitry.Graph.Parameter
import Circuitry.Text.Outline
import Circuitry.Text.Quoted

/-!
Circuits: graphs of layers, each with named parameter graphs.

A circuit is built by appending layers that refer to earlier ones.  When it is finished it takes
the next identity from a supply; circuits are compared by identity, so two circuits built alike
are different.
-/

namespace Circuitry

/-- The identity of a finished circuit. -/
structure CircuitId where
  number : Nat
  deriving DecidableEq, Repr

namespace CircuitId

/-- The identity in messages. -/
def display (id : CircuitId) : String :=
  "circuit#" ++ toString id.number

/-- The identity in outlines. -/
def outline (id : CircuitId) : String :=
  Text.applied "CircuitId" (toString id.number)

end CircuitId

/-- The identities taken so far. -/
structure Supply where
  taken : Nat := 0
  deriving DecidableEq, Repr

namespace Supply

/-- The identity that the next finished circuit takes. -/
def next (supply : Supply) : CircuitId :=
  ⟨supply.taken + 1⟩

/-- The supply after one more identity is taken. -/
def advance (supply : Supply) : Supply :=
  ⟨supply.taken + 1⟩

end Supply

/-- A layer with its inputs and named parameter graphs. -/
structure LayerEntry (κ : Type) [Vocabulary κ] where
  node : Node κ
  inputs : List Nat
  parameters : List (String × ParameterGraph κ)

/-- The first parameter graph of a name. -/
def LayerEntry.parameter? {κ : Type} [Vocabulary κ] (layer : LayerEntry κ) (name : String) :
    Option (ParameterGraph κ) :=
  layer.parameters.lookup name

/-- A finished circuit. -/
structure Circuit (κ : Type) [Vocabulary κ] where
  id : CircuitId
  name : Option String
  layers : Array (LayerEntry κ)
  outputs : List Nat

namespace Circuit

variable {κ : Type} [Vocabulary κ]

instance : BEq (Circuit κ) where
  beq left right := left.id == right.id

theorem beq_iff (left right : Circuit κ) : (left == right) = true ↔ left.id = right.id := by
  change (left.id == right.id) = true ↔ left.id = right.id
  exact beq_iff_eq

instance : EquivBEq (Circuit κ) where
  rfl := by
    intro circuit
    exact (beq_iff circuit circuit).mpr rfl
  symm := by
    intro left right equal
    exact (beq_iff right left).mpr ((beq_iff left right).mp equal).symm
  trans := by
    intro first second third equal equalNext
    exact (beq_iff first third).mpr
      (((beq_iff first second).mp equal).trans ((beq_iff second third).mp equalNext))

/-- The inputs of each layer. -/
def wiring (circuit : Circuit κ) : Wiring where
  size := circuit.layers.size
  inputs index := (circuit.layers[index]?.map (·.inputs)).getD []

/-- The layers that the outputs depend on, inputs first. -/
def topologicalOrder (circuit : Circuit κ) : List Nat :=
  circuit.wiring.postOrder circuit.outputs

def outline (circuit : Circuit κ) : String :=
  Text.record "SymbolicCircuit"
    [("id", circuit.id.outline),
     ("name", Text.optional (circuit.name.map Text.quoted)),
     ("layers", toString circuit.layers.size),
     ("outputs", Text.bracketed (circuit.outputs.map fun index =>
       Text.applied "LayerId" (toString index)))]

end Circuit

/-- A circuit under construction. -/
structure CircuitBuilder (κ : Type) [Vocabulary κ] where
  name : Option String := none
  layers : Array (LayerEntry κ) := #[]

namespace CircuitBuilder

variable {κ : Type} [Vocabulary κ]

/-- The builder without layers, for a circuit that may have a name. -/
def named (name : Option String) : CircuitBuilder κ where
  name := name

/-- Appends a layer; gives its index. -/
def push (builder : CircuitBuilder κ) (node : Node κ) (inputs : List Nat)
    (parameters : List (String × ParameterGraph κ)) :
    Except (BuildError κ) (Nat × CircuitBuilder κ) := do
  requireCategory .layer node
  requireReferences .layer builder.layers.size inputs
  return (builder.layers.size,
    { builder with layers := builder.layers.push ⟨node, inputs, parameters⟩ })

/-- Completes the circuit with outputs; it takes the next identity. -/
def finish (builder : CircuitBuilder κ) (supply : Supply) (outputs : List Nat) :
    Except (BuildError κ) (Circuit κ × Supply) := do
  if outputs.isEmpty then
    throw .circuitWithoutOutputs
  requireReferences .layer builder.layers.size outputs
  return (⟨supply.next, builder.name, builder.layers, outputs⟩, supply.advance)

end CircuitBuilder

end Circuitry
