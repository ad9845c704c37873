import Circuitry.Graph.Circuit

/-!
Schedules: the nodes of a graph in the order in which they are compiled, with their indices.
-/

namespace Circuitry

/-- The nodes of a parameter graph in topological order, with their indices. -/
def ParameterGraph.schedule {κ : Type} [Vocabulary κ] (graph : ParameterGraph κ) :
    List (Nat × ParameterEntry κ) :=
  graph.topologicalOrder.filterMap fun index =>
    graph.entries[index]?.map fun entry => (index, entry)

/-- The layers of a circuit with their indices: those that the outputs depend on in topological
order, or all of them. -/
def Circuit.schedule {κ : Type} [Vocabulary κ] (circuit : Circuit κ) (prune : Bool) :
    List (Nat × LayerEntry κ) :=
  (if prune then circuit.topologicalOrder else List.range circuit.layers.size).filterMap
    fun index => circuit.layers[index]?.map fun layer => (index, layer)

end Circuitry
