/-!
Depth-first traversal of a graph whose nodes list their inputs.

The order that results lists every node reachable from the roots once, after the inputs that were
not being visited already; ties follow the order of roots and inputs.  The traversal keeps a stack
of frames, each with the inputs it has still to look at, and marks a node when it is pushed, so it
ends on cyclic graphs too.
-/

namespace Circuitry

/-- The inputs of each node of a graph with a number of nodes. -/
structure Wiring where
  size : Nat
  inputs : Nat → List Nat

namespace Traversal

/-- Whether a node has been reached, and whether its visit has ended. -/
inductive Mark
  | fresh
  | opened
  | done
  deriving DecidableEq, Repr

/-- A node under visit and its inputs that are still to be looked at. -/
structure Frame where
  node : Nat
  pending : List Nat
  deriving DecidableEq, Repr

/-- The state of a traversal; the order is kept with the newest node first. -/
structure State where
  marks : Array Mark
  stack : List Frame
  finished : List Nat
  deriving DecidableEq, Repr

namespace State

/-- The mark of a node; there is nothing to visit outside of the graph. -/
def mark (state : State) (node : Nat) : Mark :=
  state.marks[node]?.getD .done

/-- Starts the visit of a node unless it has been reached before. -/
def enter (wiring : Wiring) (state : State) (node : Nat) : State :=
  if state.mark node = .fresh then
    { state with
      marks := state.marks.setIfInBounds node .opened
      stack := ⟨node, wiring.inputs node⟩ :: state.stack }
  else state

/-- Processes the top frame: enters its next input, or ends its visit. -/
def advance (wiring : Wiring) (state : State) : State :=
  match state.stack with
  | [] => state
  | ⟨node, []⟩ :: below =>
    { marks := state.marks.setIfInBounds node .done
      stack := below
      finished := node :: state.finished }
  | ⟨node, next :: pending⟩ :: below =>
    enter wiring { state with stack := ⟨node, pending⟩ :: below } next

/-- Processes frames until the stack is empty, at most as many as there is fuel. -/
def drain (wiring : Wiring) : Nat → State → State
  | 0, state => state
  | fuel + 1, state =>
    if state.stack.isEmpty then state else drain wiring fuel (advance wiring state)

/-- The state before any visit. -/
def initial (wiring : Wiring) : State where
  marks := Array.replicate wiring.size .fresh
  stack := []
  finished := []

end State

/-- A bound on the frames that a traversal processes: each node is pushed at most once, and its
frame is processed once for each input and once more at its end. -/
def budget (wiring : Wiring) : Nat :=
  (List.range wiring.size).foldr (fun node total => (wiring.inputs node).length + 1 + total) 0

def visitRoot (wiring : Wiring) (state : State) (root : Nat) : State :=
  (state.enter wiring root).drain wiring (budget wiring)

end Traversal

/-- The nodes reachable from the roots, each after its inputs. -/
def Wiring.postOrder (wiring : Wiring) (roots : List Nat) : List Nat :=
  (roots.foldl (Traversal.visitRoot wiring) (Traversal.State.initial wiring)).finished.reverse

end Circuitry
