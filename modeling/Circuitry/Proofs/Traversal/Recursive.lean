import Circuitry.Proofs.Traversal.Topological

/-!
# The traversal as a recursion

A recursive visit does nothing with a node that has been visited, and otherwise visits its inputs
from left to right and then appends the node.  Where inputs come before their consumers, the
traversal with a stack lists the nodes as these visits do.  A stack stands for the calls that have
not returned: from the order so far and the stack alone it is told which order the visits will
leave behind, and no step of the traversal changes that.
-/

namespace Circuitry

namespace Wiring

/-- The order after the visit of a node.  The inputs that do not come before the node are passed
over, which makes this a recursion on every graph. -/
def visit (wiring : Wiring) (order : List Nat) (node : Nat) : List Nat :=
  if node ∈ order then order
  else
    (wiring.inputs node).foldl
      (fun order input => if input < node then wiring.visit order input else order) order ++ [node]
termination_by node

theorem visit_of_mem {wiring : Wiring} {order : List Nat} {node : Nat} (member : node ∈ order) :
    wiring.visit order node = order := by
  unfold visit
  rw [if_pos member]

/-- Where inputs come before their consumers, none is passed over. -/
theorem visit_of_not_mem {wiring : Wiring} (descending : wiring.Descending) {order : List Nat}
    {node : Nat} (bound : node < wiring.size) (new : node ∉ order) :
    wiring.visit order node = (wiring.inputs node).foldl wiring.visit order ++ [node] := by
  rw [visit, if_neg new]
  congr 1
  exact List.foldl_ext _ _ _ fun order input consumed =>
    if_pos (descending node bound input consumed)

end Wiring

namespace Traversal

variable {wiring : Wiring} {state : State} {roots : List Nat}

namespace State

/-- The order once the visits on a stack have ended, the innermost first. -/
def resume (wiring : Wiring) : List Frame → List Nat → List Nat
  | [], order => order
  | ⟨node, pending⟩ :: below, order =>
    resume wiring below (pending.foldl wiring.visit order ++ [node])

/-- The order that a traversal leaves behind, told in the midst of it. -/
def outlook (wiring : Wiring) (state : State) : List Nat :=
  resume wiring state.stack state.finished.reverse

theorem outlook_of_idle (idle : state.stack = []) :
    state.outlook wiring = state.finished.reverse := by
  rw [outlook, idle, resume]

/-- A node before all that are under visit has been visited if it is not fresh. -/
theorem mem_finished_of_least (coherent : state.Coherent wiring) {node : Nat}
    (bound : node < wiring.size) (least : ∀ other ∈ state.openNodes, node < other)
    (reached : state.mark node ≠ .fresh) : node ∈ state.finished := by
  rcases seen_of_mark_ne_fresh coherent bound reached with opened | finished
  · exact absurd (least node opened) (Nat.lt_irrefl node)
  · exact finished

theorem outlook_enter (descending : wiring.Descending) (coherent : state.Coherent wiring)
    {node : Nat} (bound : node < wiring.size) (least : ∀ other ∈ state.openNodes, node < other) :
    (state.enter wiring node).outlook wiring =
      resume wiring state.stack (wiring.visit state.finished.reverse node) := by
  unfold State.enter
  split
  · next fresh =>
      have new : node ∉ state.finished.reverse := fun member => by
        have done := (coherent.done node).mpr (List.mem_reverse.mp member)
        rw [(mark_eq_fresh_iff node).mp fresh] at done
        contradiction
      rw [Wiring.visit_of_not_mem descending bound new]
      rfl
  · next reached =>
      have finished := mem_finished_of_least coherent bound least reached
      rw [Wiring.visit_of_mem (List.mem_reverse.mpr finished)]
      rfl

/-- Processing a frame leaves the order that the traversal leads to. -/
theorem outlook_advance (descending : wiring.Descending) (explores : state.Explores wiring roots)
    (descends : state.Descends wiring) :
    (state.advance wiring).outlook wiring = state.outlook wiring := by
  unfold State.advance
  split
  · rfl
  · next node below top =>
      rw [outlook, outlook, top, resume, List.foldl_nil, List.reverse_cons]
  · next node input pending below top =>
      have smaller := descending node (lt_of_top explores.coherent top) input
        (explores.reachable_input top).1
      have bound := Nat.lt_trans smaller (lt_of_top explores.coherent top)
      have least : ∀ other ∈ openNodes { state with stack := ⟨node, pending⟩ :: below },
          input < other := by
        intro other member
        have ascending := descends.open_ascending
        simp only [openNodes, top, List.map_cons, List.pairwise_cons] at ascending
        rcases List.mem_cons.mp member with rfl | inBelow
        · exact smaller
        · exact Nat.lt_trans smaller (ascending.1 other inBelow)
      rw [outlook_enter descending (explores.coherent.shorten top) bound least]
      simp only [outlook, top, resume, List.foldl_cons]

theorem outlook_drain (descending : wiring.Descending) (fuel : Nat) :
    ∀ {state : State}, state.Explores wiring roots → state.Descends wiring →
      (state.drain wiring fuel).outlook wiring = state.outlook wiring := by
  induction fuel with
  | zero =>
      intro state _ _
      rfl
  | succ fuel inductionHypothesis =>
      intro state explores descends
      unfold State.drain
      split
      · rfl
      · rw [inductionHypothesis (explores.advance descending.inRange)
          (descends.advance descending explores), outlook_advance descending explores descends]

end State

/-- Between two roots, the traversal from a root is its recursive visit. -/
theorem finished_visitRoot (descending : wiring.Descending) (rests : Rests wiring roots state)
    (descends : state.Descends wiring) {root : Nat} (member : root ∈ roots)
    (bound : root < wiring.size) :
    (visitRoot wiring state root).finished.reverse =
      wiring.visit state.finished.reverse root := by
  have least : ∀ other ∈ state.openNodes, root < other := by
    simp [State.openNodes, rests.idle]
  have entered := rests.explores.enter bound (.root member)
  have ended := (rests.visitRoot descending.inRange member bound).1.idle
  calc
    (visitRoot wiring state root).finished.reverse
        = (visitRoot wiring state root).outlook wiring := (State.outlook_of_idle ended).symm
    _ = (state.enter wiring root).outlook wiring :=
        State.outlook_drain descending (budget wiring) entered (descends.enter least)
    _ = State.resume wiring state.stack (wiring.visit state.finished.reverse root) :=
        State.outlook_enter descending rests.explores.coherent bound least
    _ = wiring.visit state.finished.reverse root := by rw [rests.idle, State.resume]

theorem finished_visitRoots (descending : wiring.Descending) (later : List Nat) :
    ∀ {state : State}, Rests wiring roots state → state.Descends wiring →
      (∀ root ∈ later, root ∈ roots) → (∀ root ∈ later, root < wiring.size) →
        (later.foldl (visitRoot wiring) state).finished.reverse =
          later.foldl wiring.visit state.finished.reverse := by
  induction later with
  | nil =>
      intro state _ _ _ _
      rfl
  | cons root rest inductionHypothesis =>
      intro state rests descends members bounds
      obtain ⟨member, restMembers⟩ := List.forall_mem_cons.mp members
      obtain ⟨bound, restBounds⟩ := List.forall_mem_cons.mp bounds
      have visited := (rests.visitRoot descending.inRange member bound).1
      have descendsThen : (visitRoot wiring state root).Descends wiring :=
        descends_visitRoots descending [root] rests descends (by simpa using member)
          (by simpa using bound)
      rw [List.foldl_cons, List.foldl_cons,
        inductionHypothesis visited descendsThen restMembers restBounds,
        finished_visitRoot descending rests descends member bound]

end Traversal

namespace Wiring

open Traversal

/-- Where inputs come before their consumers, the traversal returns the order that the visits of the
roots leave behind, from left to right.  A visit does nothing with a node that has been visited, and
otherwise visits its inputs from left to right and then appends the node. -/
theorem postOrder_eq_foldl_visit {wiring : Wiring} (descending : wiring.Descending)
    {roots : List Nat} (bounds : ∀ root ∈ roots, root < wiring.size) :
    wiring.postOrder roots = roots.foldl wiring.visit [] ∧
      ∀ order : List Nat, ∀ node < wiring.size, wiring.visit order node =
        if node ∈ order then order
        else (wiring.inputs node).foldl wiring.visit order ++ [node] := by
  refine ⟨?_, fun order node bound => ?_⟩
  · exact finished_visitRoots descending roots (rests_initial wiring roots)
      ⟨List.Pairwise.nil, trivial⟩ (fun _ member => member) bounds
  · split
    · next member => exact visit_of_mem member
    · next new => exact visit_of_not_mem descending bound new

/-- A graph in which nodes and inputs are named more than once, and one node is not needed. -/
def tangled : Wiring where
  size := 6
  inputs
    | 2 => [1, 0, 1]
    | 3 => [0, 0]
    | 5 => [3, 2, 3, 1]
    | _ => []

theorem descending_tangled : tangled.Descending := by
  unfold Descending tangled
  decide

/-- The nodes are listed as the roots ask for them, and not by their indices. -/
theorem postOrder_tangled :
    tangled.postOrder [3, 5, 3] = [0, 3, 1, 2, 5] ∧
      [3, 5, 3].foldl tangled.visit [] = [0, 3, 1, 2, 5] := by
  have listed : tangled.postOrder [3, 5, 3] = [0, 3, 1, 2, 5] := by decide
  exact ⟨listed, (postOrder_eq_foldl_visit descending_tangled (by decide)).1.symm.trans listed⟩

end Wiring

end Circuitry
