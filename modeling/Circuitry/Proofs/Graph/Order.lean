import Circuitry.Catalogue.Kind
import Circuitry.Proofs.Graph.Built
import Circuitry.Proofs.Graph.Schedule

/-!
# The order of built graphs

The inputs in a graph that a builder has completed come before their consumers, so its topological
order is one: it holds what the outputs depend on and nothing else, each node once and after its
inputs.  All layers of a circuit in the order in which they were added have their inputs first, too.
-/

namespace Circuitry

variable {κ : Type} [Vocabulary κ]

namespace ParameterGraph

theorem inputs_wiring {graph : ParameterGraph κ} {index : Nat} {entry : ParameterEntry κ}
    (found : graph.entries[index]? = some entry) : graph.wiring.inputs index = entry.inputs := by
  change (graph.entries[index]?.map (·.inputs)).getD [] = entry.inputs
  rw [found]
  rfl

theorem Linked.topologicalOrder {graph : ParameterGraph κ} (linked : graph.Linked) :
    graph.wiring.TopologicalOrder [graph.output] graph.topologicalOrder :=
  Wiring.topologicalOrder_postOrder linked.inputs.descending
    (List.forall_mem_singleton.mpr linked.output)

end ParameterGraph

namespace Circuit

theorem inputs_wiring {circuit : Circuit κ} {index : Nat} {layer : LayerEntry κ}
    (found : circuit.layers[index]? = some layer) : circuit.wiring.inputs index = layer.inputs := by
  change (circuit.layers[index]?.map (·.inputs)).getD [] = layer.inputs
  rw [found]
  rfl

theorem Linked.topologicalOrder {circuit : Circuit κ} (linked : circuit.Linked) :
    circuit.wiring.TopologicalOrder circuit.outputs circuit.topologicalOrder :=
  Wiring.topologicalOrder_postOrder linked.inputs.descending linked.outputs

theorem Linked.inputsFirst_order {circuit : Circuit κ} (linked : circuit.Linked) (prune : Bool) :
    circuit.wiring.InputsFirst (circuit.order prune) := by
  cases prune with
  | true => exact linked.topologicalOrder.inputsFirst
  | false => exact Wiring.Descending.inputsFirst_range linked.inputs.descending

/-- Every output is compiled, whether or not layers are left out. -/
theorem Linked.mem_order_of_output {circuit : Circuit κ} (linked : circuit.Linked) (prune : Bool)
    {output : Nat} (listed : output ∈ circuit.outputs) : output ∈ circuit.order prune := by
  cases prune with
  | true => exact (linked.topologicalOrder.mem_iff output).mpr (.root listed)
  | false => exact List.mem_range.mpr (linked.outputs output listed)

theorem length_schedule_le (circuit : Circuit κ) (prune : Bool) :
    (circuit.schedule prune).length ≤ circuit.layers.size := by
  rw [← List.length_map (·.1), circuit.map_fst_schedule prune,
    ← List.length_range (n := circuit.layers.size)]
  exact ((circuit.nodup_order prune).subperm fun index member =>
    List.mem_range.mpr (lt_of_mem_order member)).length_le

/-- The layers that are left when pruning are among all of them. -/
theorem mem_schedule_of_pruned {circuit : Circuit κ} {item : Nat × LayerEntry κ}
    (member : item ∈ circuit.schedule true) : item ∈ circuit.schedule false := by
  have found := getElem?_of_mem_schedule member
  have bound := (Array.getElem?_eq_some_iff.mp found).1
  refine List.mem_filterMap.mpr ⟨item.1, List.mem_range.mpr bound, ?_⟩
  rw [found]
  rfl

end Circuit

/-- Topological orders are exact.  That of a built circuit lists the layers that its outputs depend
on, and that of a built parameter graph the nodes that its output depends on: no other, none of them
twice, and each after all of its inputs. -/
theorem topologicalOrder_exact :
    (∀ circuit : Circuit κ, circuit.Built →
        circuit.wiring.TopologicalOrder circuit.outputs circuit.topologicalOrder) ∧
      ∀ graph : ParameterGraph κ, graph.Built →
        graph.wiring.TopologicalOrder [graph.output] graph.topologicalOrder :=
  ⟨fun _ built => built.linked.topologicalOrder, fun _ built => built.linked.topologicalOrder⟩

namespace Overlap

def weights : ParameterGraph Kind where
  entries :=
    #[⟨⟨.weight, ()⟩, [], some ⟨.ones, ()⟩⟩,
      ⟨⟨.weight, ()⟩, [0], none⟩,
      ⟨⟨.weight, ()⟩, [0, 0], none⟩]
  output := 2

/-- Inputs and outputs are repeated, an output is the input of another one, and nothing depends on
the second leaf. -/
def circuit : Circuit Kind where
  id := ⟨1⟩
  name := none
  layers :=
    #[⟨⟨.leaf, ()⟩, [], []⟩,
      ⟨⟨.leaf, ()⟩, [], []⟩,
      ⟨⟨.weightedSum, ()⟩, [0, 0], [("weights", weights)]⟩,
      ⟨⟨.plainProduct, ()⟩, [2, 0], []⟩]
  outputs := [3, 2, 3]

theorem built_weights : weights.Built :=
  ⟨⟨weights.entries⟩, weights.output, .pushAll weights.entries.toList .empty rfl, rfl⟩

theorem built_circuit : circuit.Built := by
  refine ⟨⟨circuit.name, circuit.layers⟩, {}, ⟨1⟩, circuit.outputs, ?_, rfl⟩
  exact .pushAll circuit.layers.toList (.named none) (by simp [circuit, built_weights]) rfl

end Overlap

/-- The dangling nodes are left out, and what is shared stands in its place once. -/
theorem topologicalOrder_exact_overlap :
    Overlap.circuit.Built ∧ Overlap.weights.Built ∧
      Overlap.circuit.topologicalOrder = [0, 2, 3] ∧ Overlap.weights.topologicalOrder = [0, 2] ∧
      Overlap.circuit.wiring.TopologicalOrder [3, 2, 3] [0, 2, 3] ∧
      Overlap.weights.wiring.TopologicalOrder [2] [0, 2] :=
  ⟨Overlap.built_circuit, Overlap.built_weights, rfl, rfl,
    topologicalOrder_exact.1 Overlap.circuit Overlap.built_circuit,
    topologicalOrder_exact.2 Overlap.weights Overlap.built_weights⟩

end Circuitry
