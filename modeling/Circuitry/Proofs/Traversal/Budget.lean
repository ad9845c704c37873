import Circuitry.Proofs.Traversal.Marks
import Mathlib.Algebra.Order.BigOperators.Group.Finset

/-!
# The work of a traversal

Visiting a node processes its frame once for each input and once more at the end.  The work that is
left at some moment is what the frames on the stack still ask for, and the cost of every node that
has not been reached.  Entering a node only moves its cost to the stack, and each processed frame
uses up one unit, so the budget is enough for any number of roots on any graph, cyclic or not.
-/

namespace Circuitry.Traversal

/-- How often the visit of a node processes its frame. -/
def visitCost (wiring : Wiring) (node : Nat) : Nat :=
  (wiring.inputs node).length + 1

theorem budget_eq_sum (wiring : Wiring) :
    budget wiring = ∑ node ∈ Finset.range wiring.size, visitCost wiring node := by
  change _ = ((List.range wiring.size).map (visitCost wiring)).sum
  unfold budget
  induction List.range wiring.size with
  | nil => rfl
  | cons node rest inductionHypothesis =>
      rw [List.foldr_cons, inductionHypothesis, List.map_cons, List.sum_cons]
      rfl

namespace State

variable {wiring : Wiring} {state : State}

/-- What the frames of a stack still ask for. -/
def stackWork : List Frame → Nat
  | [] => 0
  | frame :: below => frame.pending.length + 1 + stackWork below

/-- The cost of the nodes that have not been reached. -/
def freshWork (wiring : Wiring) (state : State) : Nat :=
  ∑ node ∈ Finset.range wiring.size,
    if state.mark node = .fresh then visitCost wiring node else 0

/-- How many frames are still to be processed when all nodes are reached in the end. -/
def work (wiring : Wiring) (state : State) : Nat :=
  stackWork state.stack + freshWork wiring state

theorem freshWork_le_budget (wiring : Wiring) (state : State) :
    freshWork wiring state ≤ budget wiring := by
  rw [budget_eq_sum]
  refine Finset.sum_le_sum fun node _ => ?_
  split
  · exact Nat.le_refl _
  · exact Nat.zero_le _

theorem mark_setIfInBounds_of_ne {marks : Array Mark} {stack stack' : List Frame}
    {finished finished' : List Nat} {node other : Nat} {mark : Mark} (different : node ≠ other) :
    State.mark ⟨marks.setIfInBounds node mark, stack', finished'⟩ other =
      State.mark ⟨marks, stack, finished⟩ other := by
  unfold State.mark
  rw [Array.getElem?_setIfInBounds_ne different]

theorem freshWork_of_entered (coherent : Coherent wiring state) {node : Nat}
    (fresh : state.mark node = .fresh) (stack : List Frame) :
    visitCost wiring node +
        freshWork wiring ⟨state.marks.setIfInBounds node .opened, stack, state.finished⟩ =
      freshWork wiring state := by
  have bound : node < state.marks.size :=
    (Array.getElem?_eq_some_iff.mp ((mark_eq_fresh_iff node).mp fresh)).1
  have member : node ∈ Finset.range wiring.size := Finset.mem_range.mpr (coherent.size ▸ bound)
  have opened : State.mark ⟨state.marks.setIfInBounds node .opened, stack, state.finished⟩ node =
      .opened := by
    simp [State.mark, bound]
  unfold freshWork
  rw [← Finset.add_sum_erase _ _ member, ← Finset.add_sum_erase _ _ member, opened, if_pos fresh,
    if_neg (by decide), Nat.zero_add]
  congr 1
  refine Finset.sum_congr rfl fun other erased => ?_
  rw [mark_setIfInBounds_of_ne (Finset.ne_of_mem_erase erased).symm]

theorem freshWork_of_finished {node : Nat} (reached : state.mark node ≠ .fresh)
    (stack : List Frame) (finished : List Nat) :
    freshWork wiring ⟨state.marks.setIfInBounds node .done, stack, finished⟩ =
      freshWork wiring state := by
  refine Finset.sum_congr rfl fun other _ => ?_
  by_cases same : node = other
  · subst other
    have done : State.mark ⟨state.marks.setIfInBounds node .done, stack, finished⟩ node ≠
        .fresh := by
      unfold State.mark
      rw [Array.getElem?_setIfInBounds]
      simp only [if_true]
      split <;> simp
    rw [if_neg done, if_neg reached]
  · rw [mark_setIfInBounds_of_ne same]

/-- Entering a node moves its cost from the fresh nodes to the stack. -/
theorem work_enter (coherent : Coherent wiring state) (node : Nat) :
    (state.enter wiring node).work wiring = state.work wiring := by
  unfold State.enter
  split
  · next fresh =>
      have moved := freshWork_of_entered coherent fresh (⟨node, wiring.inputs node⟩ :: state.stack)
      rw [work, work, stackWork, ← moved]
      dsimp only [visitCost]
      omega
  · rfl

/-- Each processed frame uses up one unit of work. -/
theorem work_advance (coherent : Coherent wiring state) (busy : state.stack ≠ []) :
    (state.advance wiring).work wiring + 1 = state.work wiring := by
  unfold State.advance
  split
  · next empty => exact absurd empty busy
  · next node below top =>
      have opened : state.marks[node]? = some .opened :=
        (coherent.opened node).mpr (by simp [openNodes, top])
      have reached : state.mark node ≠ .fresh := by
        rw [Ne, mark_eq_fresh_iff, opened]
        simp
      rw [work, work, freshWork_of_finished reached, top, stackWork, List.length_nil]
      dsimp only
      omega
  · next node input pending below top =>
      rw [work_enter (coherent.shorten top), work, work, stackWork, top, stackWork,
        List.length_cons]
      change pending.length + 1 + stackWork below + freshWork wiring state + 1 = _
      omega

/-- With enough fuel for the work that is left, the stack is empty in the end. -/
theorem stack_drain (fuel : Nat) :
    ∀ {state : State}, Coherent wiring state → state.work wiring ≤ fuel →
      (state.drain wiring fuel).stack = [] := by
  induction fuel with
  | zero =>
      intro state coherent enough
      cases top : state.stack with
      | nil => exact top
      | cons frame below =>
          rw [work, top, stackWork] at enough
          omega
  | succ fuel inductionHypothesis =>
      intro state coherent enough
      unfold State.drain
      split
      · next empty => exact List.isEmpty_iff.mp empty
      · next busy =>
          have used := work_advance coherent fun empty => busy (List.isEmpty_iff.mpr empty)
          exact inductionHypothesis coherent.advance (by omega)

end State

theorem stack_visitRoot {wiring : Wiring} {state : State} (coherent : state.Coherent wiring)
    (idle : state.stack = []) (root : Nat) : (visitRoot wiring state root).stack = [] := by
  refine State.stack_drain (budget wiring) (coherent.enter root) ?_
  rw [State.work_enter coherent, State.work, idle]
  simpa [State.stackWork] using State.freshWork_le_budget wiring state

end Circuitry.Traversal
