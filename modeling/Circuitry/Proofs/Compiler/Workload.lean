import Circuitry.Proofs.Compiler.Dispatch
import Circuitry.Proofs.Graph.Order
import Mathlib.Data.Set.Card

/-!
# The work in a circuit

How many nodes of each category have to be compiled is told by the graphs of a circuit alone: the
layers that its outputs depend on, or all of them, the nodes that the outputs of their parameter
graphs depend on, and those of these nodes that carry an initializer.  The visits of the circuit are
just as many.
-/

namespace Circuitry

variable {κ : Type} [Vocabulary κ]

/-- How many of the visits are to nodes of a category. -/
def countVisits (category : Category) (visits : List (Visit κ)) : Nat :=
  visits.countP fun visit => visit.category = category

@[simp] theorem countVisits_nil (category : Category) :
    countVisits category ([] : List (Visit κ)) = 0 := rfl

@[simp] theorem countVisits_cons (category : Category) (visit : Visit κ)
    (visits : List (Visit κ)) :
    countVisits category (visit :: visits) =
      countVisits category visits + if visit.category = category then 1 else 0 := by
  unfold countVisits
  rw [List.countP_cons]
  simp only [decide_eq_true_eq]

@[simp] theorem countVisits_append (category : Category) (visits later : List (Visit κ)) :
    countVisits category (visits ++ later) =
      countVisits category visits + countVisits category later :=
  List.countP_append

theorem countVisits_flatMap {α : Type} (category : Category) (items : List α)
    (visits : α → List (Visit κ)) :
    countVisits category (items.flatMap visits) =
      (items.map fun item => countVisits category (visits item)).sum :=
  List.countP_flatMap

/-- The event is a dispatch to a rule of a category. -/
def Event.isDispatchTo (category : Category) : Event κ → Bool
  | compiling found _ => found = category
  | _ => false

/-- How many dispatches to rules of a category have been reported. -/
def Session.dispatchCount {target : Target} (session : Session κ target) (category : Category) :
    Nat :=
  session.dispatches.countP (Event.isDispatchTo category)

theorem countP_map_event (category : Category) (visits : List (Visit κ)) :
    (visits.map Visit.event).countP (Event.isDispatchTo category) =
      countVisits category visits :=
  List.countP_map

theorem Session.dispatchCount_of_trail {target : Target} {session later : Session κ target}
    {visits : List (Visit κ)}
    (trail : later.dispatches = session.dispatches ++ visits.map Visit.event)
    (category : Category) :
    later.dispatchCount category =
      session.dispatchCount category + countVisits category visits := by
  unfold Session.dispatchCount
  rw [trail, List.countP_append, countP_map_event]

theorem length_eq_ncard {order : List Nat} {member : Nat → Prop} (nodup : order.Nodup)
    (mem_iff : ∀ index, index ∈ order ↔ member index) :
    order.length = Set.ncard {index | member index} := by
  have same : {index | member index} = (order.toFinset : Set Nat) := by
    ext index
    simp [mem_iff]
  rw [same, Set.ncard_coe_finset, List.toFinset_card_of_nodup nodup]

theorem ParameterGraph.Linked.length_schedule {graph : ParameterGraph κ} (linked : graph.Linked) :
    graph.schedule.length = Set.ncard {index | graph.wiring.Reachable [graph.output] index} := by
  rw [← List.length_map (·.1), graph.map_fst_schedule]
  exact length_eq_ncard graph.nodup_topologicalOrder linked.topologicalOrder.mem_iff

theorem ParameterGraph.Linked.countP_schedule {graph : ParameterGraph κ} (linked : graph.Linked) :
    graph.schedule.countP (fun item => item.2.initializer.isSome) =
      Set.ncard {index | graph.wiring.Reachable [graph.output] index ∧
        (graph.entries[index]?.bind (·.initializer)).isSome = true} := by
  rw [List.countP_eq_length_filter, ← List.length_map (·.1)]
  refine length_eq_ncard ?_ fun index => ?_
  · have nodup := graph.nodup_topologicalOrder
    rw [← graph.map_fst_schedule] at nodup
    exact nodup.sublist (List.filter_sublist.map _)
  · rw [← linked.topologicalOrder.mem_iff, ← graph.map_fst_schedule, List.mem_map, List.mem_map]
    constructor
    · rintro ⟨item, member, rfl⟩
      obtain ⟨scheduled, carries⟩ := List.mem_filter.mp member
      refine ⟨⟨item, scheduled, rfl⟩, ?_⟩
      rw [getElem?_of_mem_schedule scheduled]
      exact carries
    · rintro ⟨⟨item, scheduled, rfl⟩, carries⟩
      rw [getElem?_of_mem_schedule scheduled] at carries
      exact ⟨item, List.mem_filter.mpr ⟨scheduled, carries⟩, rfl⟩

/-- The layer has to be compiled: when pruning only if an output depends on it. -/
def Circuit.Demands (circuit : Circuit κ) (prune : Bool) (index : Nat) : Prop :=
  if prune then circuit.wiring.Reachable circuit.outputs index else index < circuit.layers.size

theorem Circuit.Linked.length_schedule {circuit : Circuit κ} (linked : circuit.Linked)
    (prune : Bool) :
    (circuit.schedule prune).length = Set.ncard {index | circuit.Demands prune index} := by
  rw [← List.length_map (·.1), circuit.map_fst_schedule]
  refine length_eq_ncard (circuit.nodup_order prune) fun index => ?_
  cases prune with
  | true => exact linked.topologicalOrder.mem_iff index
  | false => exact List.mem_range

theorem ParameterEntry.countVisits_visits (entry : ParameterEntry κ) (category : Category) :
    countVisits category entry.visits =
      match category with
      | .layer => 0
      | .parameter => 1
      | .initializer => if entry.initializer.isSome then 1 else 0 := by
  unfold ParameterEntry.visits
  cases category <;> cases entry.initializer <;> rfl

/-- The number of nodes of a category that the output of the graph depends on; an initializer
belongs to the node that carries it. -/
noncomputable def ParameterGraph.workload (graph : ParameterGraph κ) : Category → Nat
  | .layer => 0
  | .parameter => Set.ncard {index | graph.wiring.Reachable [graph.output] index}
  | .initializer =>
    Set.ncard {index | graph.wiring.Reachable [graph.output] index ∧
      (graph.entries[index]?.bind (·.initializer)).isSome = true}

theorem ParameterGraph.Linked.countVisits_visits {graph : ParameterGraph κ}
    (linked : graph.Linked) (category : Category) :
    countVisits category graph.visits = graph.workload category := by
  unfold ParameterGraph.visits ParameterGraph.workload
  rw [countVisits_flatMap]
  simp only [ParameterEntry.countVisits_visits]
  cases category with
  | layer => simp
  | parameter => simp [linked.length_schedule]
  | initializer =>
      dsimp only
      rw [← linked.countP_schedule]
      induction graph.schedule with
      | nil => rfl
      | cons item rest inductionHypothesis =>
          rw [List.map_cons, List.sum_cons, inductionHypothesis, List.countP_cons, Nat.add_comm]

theorem LayerEntry.countVisits_visits {layer : LayerEntry κ}
    (linked : ∀ parameter ∈ layer.parameters, parameter.2.Linked) (category : Category) :
    countVisits category layer.visits =
      (layer.parameters.map fun parameter => parameter.2.workload category).sum +
        if category = .layer then 1 else 0 := by
  have graphs : (layer.parameters.map fun parameter => countVisits category parameter.2.visits) =
      layer.parameters.map fun parameter => parameter.2.workload category :=
    List.map_congr_left fun parameter member =>
      (linked parameter member).countVisits_visits category
  unfold LayerEntry.visits
  rw [countVisits_append, countVisits_flatMap, graphs, countVisits_cons, countVisits_nil]
  simp only [Nat.zero_add, eq_comm]

def scheduledVisits (schedule : List (Nat × LayerEntry κ)) : List (Visit κ) :=
  schedule.flatMap fun item => item.2.visits

/-- The parameter graphs of scheduled layers, those with a repeated name included. -/
def scheduledGraphs (schedule : List (Nat × LayerEntry κ)) : List (ParameterGraph κ) :=
  schedule.flatMap fun item => item.2.parameters.map (·.2)

theorem countVisits_scheduledVisits {schedule : List (Nat × LayerEntry κ)}
    (linked : ∀ item ∈ schedule, ∀ parameter ∈ item.2.parameters, parameter.2.Linked)
    (category : Category) :
    countVisits category (scheduledVisits schedule) =
      ((scheduledGraphs schedule).map (·.workload category)).sum +
        if category = .layer then schedule.length else 0 := by
  unfold scheduledVisits scheduledGraphs
  induction schedule with
  | nil => simp
  | cons item rest inductionHypothesis =>
      obtain ⟨itemLinked, restLinked⟩ := List.forall_mem_cons.mp linked
      rw [List.flatMap_cons, countVisits_append, LayerEntry.countVisits_visits itemLinked,
        inductionHypothesis restLinked, List.flatMap_cons, List.map_append, List.sum_append,
        List.map_map, List.length_cons]
      split <;> simp only [Function.comp_def] <;> omega

theorem Circuit.Linked.of_mem_schedule {circuit : Circuit κ} (linked : circuit.Linked)
    {prune : Bool} {item : Nat × LayerEntry κ} (member : item ∈ circuit.schedule prune) :
    ∀ parameter ∈ item.2.parameters, parameter.2.Linked :=
  linked.parameters item.2 (Array.mem_of_getElem? (Circuit.getElem?_of_mem_schedule member))

/-- The number of nodes of a category that have to be compiled: layers, and nodes in the parameter
graphs of these layers. -/
noncomputable def Circuit.workload (circuit : Circuit κ) (prune : Bool) : Category → Nat
  | .layer => Set.ncard {index | circuit.Demands prune index}
  | category => ((scheduledGraphs (circuit.schedule prune)).map (·.workload category)).sum

theorem Circuit.Linked.countVisits_visits {circuit : Circuit κ} (linked : circuit.Linked)
    (prune : Bool) (category : Category) :
    countVisits category (circuit.visits prune) = circuit.workload prune category := by
  refine (countVisits_scheduledVisits (fun _ => linked.of_mem_schedule) category).trans ?_
  cases category with
  | layer => simp [Circuit.workload, ParameterGraph.workload, linked.length_schedule]
  | parameter => exact Nat.add_zero _
  | initializer => exact Nat.add_zero _

end Circuitry
