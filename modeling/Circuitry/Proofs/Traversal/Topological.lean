import Circuitry.Proofs.Traversal.Reachable

/-!
# Topological orders

Where inputs come before their consumers, the nodes on the stack descend towards its top, so an
input that has been seen when a visit ends stands in the order already.  The traversal then lists
the reachable nodes in a topological order: each of them once and after all of its inputs.
-/

namespace Circuitry

namespace Wiring

/-- The inputs of a node come before it. -/
def Descending (wiring : Wiring) : Prop :=
  ∀ node < wiring.size, ∀ input ∈ wiring.inputs node, input < node

/-- The inputs of each listed node stand before it in the list. -/
def InputsFirst (wiring : Wiring) (order : List Nat) : Prop :=
  ∀ (before : List Nat) (node : Nat) (after : List Nat), order = before ++ node :: after →
    ∀ input ∈ wiring.inputs node, input ∈ before

/-- The list holds exactly the nodes that are reachable from the roots, each once and after all of
its inputs. -/
structure TopologicalOrder (wiring : Wiring) (roots order : List Nat) : Prop where
  nodup : order.Nodup
  mem_iff : ∀ node, node ∈ order ↔ wiring.Reachable roots node
  inputsFirst : wiring.InputsFirst order

theorem Descending.inRange {wiring : Wiring} (descending : wiring.Descending) :
    wiring.InRange :=
  fun node bound input member => Nat.lt_trans (descending node bound input member) bound

section Positions

variable {wiring : Wiring} {roots order : List Nat}

theorem InputsFirst.lt_of_input (inputsFirst : wiring.InputsFirst order) (nodup : order.Nodup)
    {consumer input place inputPlace : Nat} (located : order[place]? = some consumer)
    (consumed : input ∈ wiring.inputs consumer) (inputLocated : order[inputPlace]? = some input) :
    inputPlace < place := by
  obtain ⟨bound, rfl⟩ := List.getElem?_eq_some_iff.mp located
  have split : order = order.take place ++ order[place] :: order.drop (place + 1) := by
    rw [List.getElem_cons_drop, List.take_append_drop]
  obtain ⟨earlier, earlierBound, found⟩ :=
    List.getElem_of_mem (inputsFirst _ _ _ split input consumed)
  rw [List.length_take] at earlierBound
  rw [List.getElem_take] at found
  have same : order[earlier]? = order[inputPlace]? := by
    rw [inputLocated, ← found]
    exact List.getElem?_eq_getElem _
  have equal := (List.getElem?_inj (by omega) nodup).mp same
  omega

theorem TopologicalOrder.root_of_last (ordered : wiring.TopologicalOrder roots order)
    {last place : Nat} (located : order[place]? = some last)
    (final : place + 1 = order.length) : last ∈ roots := by
  have reachable := (ordered.mem_iff last).mp (List.mem_of_getElem? located)
  cases reachable with
  | root listed => exact listed
  | @input consumer _ consumerReachable consumed =>
      obtain ⟨consumerPlace, consumerLocated⟩ :=
        List.getElem?_of_mem ((ordered.mem_iff consumer).mpr consumerReachable)
      have later := ordered.inputsFirst.lt_of_input ordered.nodup consumerLocated consumed located
      have bound := (List.getElem?_eq_some_iff.mp consumerLocated).1
      omega

theorem Descending.inputsFirst_range (descending : wiring.Descending) :
    wiring.InputsFirst (List.range wiring.size) := by
  intro before node after split input consumed
  have located : (List.range wiring.size)[before.length]? = some node := by
    rw [split]
    simp
  obtain ⟨bound, place⟩ := List.getElem?_eq_some_iff.mp located
  rw [List.length_range] at bound
  rw [List.getElem_range] at place
  have smaller := descending node (place ▸ bound) input consumed
  have start : before = List.range node := by
    have taken := congrArg (List.take node) split
    rw [List.take_range, ← place, List.take_left, place] at taken
    rw [← taken, Nat.min_eq_left (by omega)]
  rw [start]
  exact List.mem_range.mpr smaller

end Positions

end Wiring

namespace Traversal

variable {wiring : Wiring} {state : State} {roots : List Nat}

namespace State

/-- Every node of a list stands in front of its inputs. -/
def ConsumersFirst (wiring : Wiring) : List Nat → Prop
  | [] => True
  | node :: older => (∀ input ∈ wiring.inputs node, input ∈ older) ∧ ConsumersFirst wiring older

/-- The nodes under visit descend to the innermost, and the order has consumers first. -/
structure Descends (wiring : Wiring) (state : State) : Prop where
  open_ascending : state.openNodes.Pairwise (· < ·)
  consumersFirst : ConsumersFirst wiring state.finished

theorem Descends.enter (descends : state.Descends wiring) {node : Nat}
    (least : ∀ other ∈ state.openNodes, node < other) :
    (state.enter wiring node).Descends wiring := by
  refine ⟨?_, by rw [finished_enter]; exact descends.consumersFirst⟩
  unfold State.enter
  split
  · exact List.pairwise_cons.mpr ⟨least, descends.open_ascending⟩
  · exact descends.open_ascending

theorem Descends.advance (descending : wiring.Descending)
    (explores : state.Explores wiring roots) (descends : state.Descends wiring) :
    (state.advance wiring).Descends wiring := by
  unfold State.advance
  split
  · exact descends
  · next node below top =>
      have openNodes : state.openNodes = node :: below.map (·.node) := by
        simp [State.openNodes, top]
      have ascending := descends.open_ascending
      rw [openNodes, List.pairwise_cons] at ascending
      refine ⟨ascending.2, ?_, descends.consumersFirst⟩
      intro input consumed
      have smaller := descending node (lt_of_top explores.coherent top) input consumed
      rcases (explores.finish top).finished node List.mem_cons_self input consumed with
        inBelow | finished
      · have larger := ascending.1 input inBelow
        omega
      · rcases List.mem_cons.mp finished with same | older
        · omega
        · exact older
  · next node input pending below top =>
      have shortened : State.Descends wiring { state with stack := ⟨node, pending⟩ :: below } := by
        refine ⟨?_, descends.consumersFirst⟩
        have ascending := descends.open_ascending
        simpa [State.openNodes, top] using ascending
      refine shortened.enter fun other member => ?_
      have smaller := descending node (lt_of_top explores.coherent top) input
        (explores.reachable_input top).1
      have ascending := shortened.open_ascending
      rcases List.mem_cons.mp member with rfl | inBelow
      · exact smaller
      · have larger := (List.pairwise_cons.mp ascending).1 other inBelow
        exact Nat.lt_trans smaller larger

theorem Descends.drain (descending : wiring.Descending) (fuel : Nat) :
    ∀ {state : State}, state.Explores wiring roots → state.Descends wiring →
      (state.drain wiring fuel).Descends wiring := by
  induction fuel with
  | zero =>
      intro state _ descends
      exact descends
  | succ fuel inductionHypothesis =>
      intro state explores descends
      unfold State.drain
      split
      · exact descends
      · exact inductionHypothesis (explores.advance descending.inRange)
          (descends.advance descending explores)

end State

theorem descends_visitRoots (descending : wiring.Descending) (later : List Nat) :
    ∀ {state : State}, Rests wiring roots state → state.Descends wiring →
      (∀ root ∈ later, root ∈ roots) → (∀ root ∈ later, root < wiring.size) →
        (later.foldl (Traversal.visitRoot wiring) state).Descends wiring := by
  induction later with
  | nil =>
      intro state _ descends _ _
      exact descends
  | cons root rest inductionHypothesis =>
      intro state rests descends members bounds
      obtain ⟨member, restMembers⟩ := List.forall_mem_cons.mp members
      obtain ⟨bound, restBounds⟩ := List.forall_mem_cons.mp bounds
      have entered := rests.explores.enter bound (.root member)
      have none : ∀ other ∈ state.openNodes, root < other := by
        simp [State.openNodes, rests.idle]
      have visited := State.Descends.drain descending (budget wiring) entered (descends.enter none)
      exact inductionHypothesis (rests.visitRoot descending.inRange member bound).1 visited
        restMembers restBounds

theorem mem_of_consumersFirst {newer older : List Nat} {node : Nat}
    (consumersFirst : State.ConsumersFirst wiring (newer ++ node :: older)) {input : Nat}
    (consumed : input ∈ wiring.inputs node) : input ∈ older := by
  induction newer with
  | nil => exact consumersFirst.1 input consumed
  | cons first rest inductionHypothesis => exact inductionHypothesis consumersFirst.2

theorem inputsFirst_reverse {finished : List Nat}
    (consumersFirst : State.ConsumersFirst wiring finished) :
    wiring.InputsFirst finished.reverse := by
  intro before node after split input consumed
  have reversed : finished = after.reverse ++ node :: before.reverse := by
    rw [← List.reverse_reverse finished, split]
    simp
  exact List.mem_reverse.mp (mem_of_consumersFirst (reversed ▸ consumersFirst) consumed)

end Traversal

namespace Wiring

open Traversal

variable {wiring : Wiring} {roots : List Nat}

/-- Where inputs come before their consumers, the traversal lists them before. -/
theorem inputsFirst_postOrder (descending : wiring.Descending)
    (bounds : ∀ root ∈ roots, root < wiring.size) :
    wiring.InputsFirst (wiring.postOrder roots) :=
  inputsFirst_reverse
    (descends_visitRoots descending roots (rests_initial wiring roots)
      ⟨List.Pairwise.nil, trivial⟩ (fun _ member => member) bounds).consumersFirst

theorem topologicalOrder_postOrder (descending : wiring.Descending)
    (bounds : ∀ root ∈ roots, root < wiring.size) :
    wiring.TopologicalOrder roots (wiring.postOrder roots) where
  nodup := wiring.nodup_postOrder roots
  mem_iff := mem_postOrder_iff descending.inRange bounds
  inputsFirst := inputsFirst_postOrder descending bounds

end Wiring

end Circuitry
