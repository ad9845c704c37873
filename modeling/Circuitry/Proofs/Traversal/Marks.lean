import Circuitry.Traversal

/-!
# The marks of a traversal

The marks tell at every moment where a node is: an open node stands on the stack, a node that is
done stands in the order, and each of them stands there once.  What follows for the order that
results is that it holds no node twice and none outside of the graph, for any wiring and any roots.
-/

namespace Circuitry.Traversal

namespace State

variable {wiring : Wiring} {state : State}

/-- The nodes under visit, the innermost first. -/
def openNodes (state : State) : List Nat :=
  state.stack.map (·.node)

/-- The marks agree with the stack and the order. -/
structure Coherent (wiring : Wiring) (state : State) : Prop where
  size : state.marks.size = wiring.size
  opened : ∀ node, state.marks[node]? = some .opened ↔ node ∈ state.openNodes
  done : ∀ node, state.marks[node]? = some .done ↔ node ∈ state.finished
  openNodup : state.openNodes.Nodup
  finishedNodup : state.finished.Nodup

theorem mark_eq_fresh_iff (node : Nat) :
    state.mark node = .fresh ↔ state.marks[node]? = some .fresh := by
  unfold mark
  cases state.marks[node]? <;> simp

theorem coherent_initial (wiring : Wiring) : Coherent wiring (initial wiring) where
  size := Array.size_replicate
  opened node := by
    simp [initial, openNodes, Array.getElem?_replicate]
  done node := by
    simp [initial, Array.getElem?_replicate]
  openNodup := List.nodup_nil
  finishedNodup := List.nodup_nil

theorem Coherent.enter (coherent : Coherent wiring state) (node : Nat) :
    Coherent wiring (state.enter wiring node) := by
  unfold State.enter
  split
  · next fresh =>
      have mark := (mark_eq_fresh_iff node).mp fresh
      have bound : node < state.marks.size := (Array.getElem?_eq_some_iff.mp mark).1
      have notOpen : node ∉ state.openNodes := fun member => by
        have opened := (coherent.opened node).mpr member
        rw [mark] at opened
        contradiction
      have notDone : node ∉ state.finished := fun member => by
        have done := (coherent.done node).mpr member
        rw [mark] at done
        contradiction
      refine ⟨?_, ?_, ?_, List.nodup_cons.mpr ⟨notOpen, coherent.openNodup⟩,
        coherent.finishedNodup⟩
      · rw [Array.size_setIfInBounds]
        exact coherent.size
      · intro other
        rw [Array.getElem?_setIfInBounds]
        by_cases same : node = other
        · subst other
          simp [openNodes, bound]
        · have member := coherent.opened other
          simp only [openNodes] at member
          simp [openNodes, same, Ne.symm same, member]
      · intro other
        rw [Array.getElem?_setIfInBounds]
        by_cases same : node = other
        · subst other
          simp [bound, notDone]
        · simp [same, coherent.done other]
  · exact coherent

/-- Looking at the next input of the top frame changes no node's place. -/
theorem Coherent.shorten {node : Nat} {pending rest : List Nat} {below : List Frame}
    (coherent : Coherent wiring state) (top : state.stack = ⟨node, pending⟩ :: below) :
    Coherent wiring { state with stack := ⟨node, rest⟩ :: below } := by
  have sameNodes : State.openNodes { state with stack := ⟨node, rest⟩ :: below } =
      state.openNodes := by
    simp [openNodes, top]
  exact
    { size := coherent.size
      opened := fun other => by rw [sameNodes]; exact coherent.opened other
      done := coherent.done
      openNodup := by rw [sameNodes]; exact coherent.openNodup
      finishedNodup := coherent.finishedNodup }

/-- Ending the visit of the top node moves it from the stack to the order. -/
theorem Coherent.finish {node : Nat} {pending : List Nat} {below : List Frame}
    (coherent : Coherent wiring state) (top : state.stack = ⟨node, pending⟩ :: below) :
    Coherent wiring
      { marks := state.marks.setIfInBounds node .done
        stack := below
        finished := node :: state.finished } := by
  have openNodes : state.openNodes = node :: below.map (·.node) := by
    simp [State.openNodes, top]
  have mark : state.marks[node]? = some .opened :=
    (coherent.opened node).mpr (openNodes ▸ List.mem_cons_self)
  have bound : node < state.marks.size := (Array.getElem?_eq_some_iff.mp mark).1
  have nodup := coherent.openNodup
  rw [openNodes, List.nodup_cons] at nodup
  have notDone : node ∉ state.finished := fun member => by
    have done := (coherent.done node).mpr member
    rw [mark] at done
    contradiction
  refine ⟨?_, ?_, ?_, nodup.2, List.nodup_cons.mpr ⟨notDone, coherent.finishedNodup⟩⟩
  · rw [Array.size_setIfInBounds]
    exact coherent.size
  · intro other
    rw [Array.getElem?_setIfInBounds]
    by_cases same : node = other
    · subst other
      simp only [State.openNodes, bound, if_true]
      simp [nodup.1]
    · have member := coherent.opened other
      rw [openNodes, List.mem_cons] at member
      simp only [State.openNodes, same, if_false, member, Ne.symm same, false_or]
  · intro other
    rw [Array.getElem?_setIfInBounds]
    by_cases same : node = other
    · subst other
      simp [bound]
    · simp [same, Ne.symm same, coherent.done other]

theorem Coherent.advance (coherent : Coherent wiring state) :
    Coherent wiring (state.advance wiring) := by
  unfold State.advance
  split
  · exact coherent
  · next node below top => exact coherent.finish top
  · next node input pending below top => exact (coherent.shorten top).enter input

theorem Coherent.drain (fuel : Nat) :
    ∀ {state : State}, Coherent wiring state → Coherent wiring (state.drain wiring fuel) := by
  induction fuel with
  | zero =>
      intro state coherent
      exact coherent
  | succ fuel inductionHypothesis =>
      intro state coherent
      unfold State.drain
      split
      · exact coherent
      · exact inductionHypothesis coherent.advance

end State

theorem coherent_visitRoot {wiring : Wiring} {state : State}
    (coherent : state.Coherent wiring) (root : Nat) :
    (visitRoot wiring state root).Coherent wiring :=
  (coherent.enter root).drain (budget wiring)

theorem coherent_visitRoots {wiring : Wiring} (roots : List Nat) :
    ∀ {state : State}, state.Coherent wiring →
      (roots.foldl (visitRoot wiring) state).Coherent wiring := by
  induction roots with
  | nil =>
      intro state coherent
      exact coherent
  | cons root rest inductionHypothesis =>
      intro state coherent
      exact inductionHypothesis (coherent_visitRoot coherent root)

end Circuitry.Traversal

namespace Circuitry.Wiring

open Traversal

/-- The traversal lists no node twice. -/
theorem nodup_postOrder (wiring : Wiring) (roots : List Nat) :
    (wiring.postOrder roots).Nodup := by
  have coherent := coherent_visitRoots roots (State.coherent_initial wiring)
  unfold postOrder
  exact List.pairwise_reverse.mpr (coherent.finishedNodup.imp Ne.symm)

theorem lt_of_mem_postOrder {wiring : Wiring} {roots : List Nat} {node : Nat}
    (member : node ∈ wiring.postOrder roots) : node < wiring.size := by
  have coherent := coherent_visitRoots roots (State.coherent_initial wiring)
  unfold postOrder at member
  have mark := (coherent.done node).mpr (List.mem_reverse.mp member)
  rw [← coherent.size]
  exact (Array.getElem?_eq_some_iff.mp mark).1

end Circuitry.Wiring
