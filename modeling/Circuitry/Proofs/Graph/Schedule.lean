import Circuitry.Graph.Schedule
import Circuitry.Proofs.Traversal.Marks
import Mathlib.Data.List.Forall2

/-!
# The order of a schedule

A schedule pairs each index of an order with what the graph holds there.  The orders that occur name
only nodes of the graph and each of them once, so a schedule leaves nothing out and an index has one
position in it.
-/

namespace Circuitry

section Indexed

variable {α : Type} {order : List Nat} {entries : Array α}

/-- Nothing is left out when all indices are in range. -/
theorem map_fst_indexed (inRange : ∀ index ∈ order, index < entries.size) :
    (order.filterMap fun index => entries[index]?.map fun entry => (index, entry)).map (·.1) =
      order := by
  induction order with
  | nil => rfl
  | cons first rest inductionHypothesis =>
      obtain ⟨firstInRange, restInRange⟩ := List.forall_mem_cons.mp inRange
      have found : entries[first]? = some entries[first] := Array.getElem?_eq_getElem firstInRange
      rw [List.filterMap_cons, found]
      simp only [Option.map_some, List.map_cons, inductionHypothesis restInRange]

theorem getElem?_of_mem_indexed {item : Nat × α}
    (member : item ∈ order.filterMap fun index => entries[index]?.map fun entry => (index, entry)) :
    entries[item.1]? = some item.2 := by
  obtain ⟨index, -, indexed⟩ := List.mem_filterMap.mp member
  obtain ⟨entry, found, rfl⟩ := Option.map_eq_some_iff.mp indexed
  exact found

theorem forall₂_indexed {β : Type} {relation : α → β → Prop} {schedule : List (Nat × α)}
    {images : List β} (found : ∀ item ∈ schedule, entries[item.1]? = some item.2)
    (related : List.Forall₂ (fun item image => relation item.2 image) schedule images) :
    List.Forall₂ (fun index image => ∃ entry, entries[index]? = some entry ∧ relation entry image)
      (schedule.map (·.1)) images := by
  rw [List.forall₂_map_left_iff]
  exact ((List.forall₂_and_left _ _).mpr ⟨found, related⟩).imp
    fun item _ both => ⟨item.2, both.1, both.2⟩

end Indexed

variable {κ : Type} [Vocabulary κ]

namespace ParameterGraph

theorem nodup_topologicalOrder (graph : ParameterGraph κ) : graph.topologicalOrder.Nodup :=
  graph.wiring.nodup_postOrder [graph.output]

theorem lt_of_mem_topologicalOrder {graph : ParameterGraph κ} {index : Nat}
    (member : index ∈ graph.topologicalOrder) : index < graph.wiring.size :=
  Wiring.lt_of_mem_postOrder member

theorem map_fst_schedule (graph : ParameterGraph κ) :
    graph.schedule.map (·.1) = graph.topologicalOrder :=
  map_fst_indexed fun _ member => lt_of_mem_topologicalOrder member

theorem getElem?_of_mem_schedule {graph : ParameterGraph κ} {item : Nat × ParameterEntry κ}
    (member : item ∈ graph.schedule) : graph.entries[item.1]? = some item.2 :=
  getElem?_of_mem_indexed member

end ParameterGraph

namespace Circuit

/-- The indices of the layers that are compiled: those that the outputs depend on in topological
order, or all of them in the order in which they were added. -/
def order (circuit : Circuit κ) (prune : Bool) : List Nat :=
  if prune then circuit.topologicalOrder else List.range circuit.layers.size

theorem nodup_order (circuit : Circuit κ) (prune : Bool) : (circuit.order prune).Nodup := by
  cases prune with
  | true => exact circuit.wiring.nodup_postOrder circuit.outputs
  | false => exact List.nodup_range

theorem lt_of_mem_topologicalOrder {circuit : Circuit κ} {index : Nat}
    (member : index ∈ circuit.topologicalOrder) : index < circuit.wiring.size :=
  Wiring.lt_of_mem_postOrder member

theorem lt_of_mem_order {circuit : Circuit κ} {prune : Bool} {index : Nat}
    (member : index ∈ circuit.order prune) : index < circuit.layers.size := by
  cases prune with
  | true => exact lt_of_mem_topologicalOrder member
  | false => exact List.mem_range.mp member

theorem map_fst_schedule (circuit : Circuit κ) (prune : Bool) :
    (circuit.schedule prune).map (·.1) = circuit.order prune :=
  map_fst_indexed fun _ member => lt_of_mem_order member

theorem getElem?_of_mem_schedule {circuit : Circuit κ} {prune : Bool} {item : Nat × LayerEntry κ}
    (member : item ∈ circuit.schedule prune) : circuit.layers[item.1]? = some item.2 :=
  getElem?_of_mem_indexed member

end Circuit

end Circuitry
