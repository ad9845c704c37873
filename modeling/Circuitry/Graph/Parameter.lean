import Circuitry.Graph.Error
import Circuitry.Traversal

/-!
Parameter graphs: the computation of one parameter tensor of a layer.

A graph is built by appending nodes that refer to earlier ones, so it is acyclic.
-/

namespace Circuitry

/-- A parameter node with its inputs and possibly an initializer. -/
structure ParameterEntry (κ : Type) [Vocabulary κ] where
  node : Node κ
  inputs : List Nat
  initializer : Option (Node κ)

/-- A graph of parameter nodes with one output. -/
structure ParameterGraph (κ : Type) [Vocabulary κ] where
  entries : Array (ParameterEntry κ)
  output : Nat

namespace ParameterGraph

variable {κ : Type} [Vocabulary κ]

/-- The inputs of each node. -/
def wiring (graph : ParameterGraph κ) : Wiring where
  size := graph.entries.size
  inputs index := (graph.entries[index]?.map (·.inputs)).getD []

/-- The nodes that the output depends on, inputs first. -/
def topologicalOrder (graph : ParameterGraph κ) : List Nat :=
  graph.wiring.postOrder [graph.output]

end ParameterGraph

/-- A parameter graph under construction. -/
structure ParameterGraphBuilder (κ : Type) [Vocabulary κ] where
  entries : Array (ParameterEntry κ) := #[]

namespace ParameterGraphBuilder

variable {κ : Type} [Vocabulary κ]

/-- The builder without nodes. -/
def empty : ParameterGraphBuilder κ where

/-- Appends a node; gives its index. -/
def push (builder : ParameterGraphBuilder κ) (node : Node κ) (inputs : List Nat)
    (initializer : Option (Node κ)) :
    Except (BuildError κ) (Nat × ParameterGraphBuilder κ) := do
  requireCategory .parameter node
  match initializer with
  | some initial => requireCategory .initializer initial
  | none => pure ()
  requireReferences .parameter builder.entries.size inputs
  return (builder.entries.size, ⟨builder.entries.push ⟨node, inputs, initializer⟩⟩)

/-- Completes the graph with an output. -/
def finish (builder : ParameterGraphBuilder κ) (output : Nat) :
    Except (BuildError κ) (ParameterGraph κ) := do
  if builder.entries.isEmpty then
    throw .parameterGraphWithoutNodes
  requireReferences .parameter builder.entries.size [output]
  return ⟨builder.entries, output⟩

end ParameterGraphBuilder

/-- The graph of a single node with an initializer. -/
def ParameterGraph.tensor {κ : Type} [Vocabulary κ] (node initializer : Node κ) :
    Except (BuildError κ) (ParameterGraph κ) := do
  let (leaf, builder) ← ParameterGraphBuilder.empty.push node [] (some initializer)
  builder.finish leaf

end Circuitry
