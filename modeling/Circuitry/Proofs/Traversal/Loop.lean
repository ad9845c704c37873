import Circuitry.Proofs.Traversal.Reachable
import Mathlib.Algebra.Order.Ring.Nat

/-!
# The loop of a traversal

A run of the loop is written down state by state, with no bound on its steps, and a step that would
look up a node outside of the graph has no rule.  On every graph, cyclic or not, there is exactly
one run.  It ends since each processed frame uses up one unit of the work that is left, which counts
the nodes that have not been reached and what the frames on the stack still ask for; what keeps it
from going around a cycle is that only a fresh node is pushed, and no node becomes fresh again.
-/

namespace Circuitry.Traversal

variable {wiring : Wiring} {state before after : State} {states : List State} {roots : List Nat}

namespace State

/-- The node that is looked up when the top frame is processed: the next input of its node, or the
node itself at the end of its visit. -/
def consulted? (state : State) : Option Nat :=
  match state.stack with
  | [] => none
  | ⟨node, []⟩ :: _ => some node
  | ⟨_, input :: _⟩ :: _ => some input

theorem consulted?_eq_none_iff : state.consulted? = none ↔ state.stack = [] := by
  unfold consulted?
  split <;> simp_all

theorem busy_of_consulted {node : Nat} (consulted : state.consulted? = some node) :
    state.stack ≠ [] := fun idle => by
  rw [consulted?_eq_none_iff.mpr idle] at consulted
  contradiction

theorem Explores.consulted?_lt (inRange : wiring.InRange) (explores : state.Explores wiring roots)
    {node : Nat} (consulted : state.consulted? = some node) : node < state.marks.size := by
  rw [explores.coherent.size]
  unfold consulted? at consulted
  split at consulted
  · contradiction
  · next top =>
      cases consulted
      exact lt_of_top explores.coherent top
  · next top =>
      cases consulted
      exact inRange _ (lt_of_top explores.coherent top) _ (explores.reachable_input top).1

/-- The frames on the stack are of different nodes of the graph. -/
theorem Coherent.length_stack_le (coherent : state.Coherent wiring) :
    state.stack.length ≤ wiring.size := by
  have inGraph : state.openNodes ⊆ List.range wiring.size := fun _ member =>
    List.mem_range.mpr (coherent.lt_of_mem_openNodes member)
  calc
    state.stack.length = state.openNodes.length := (List.length_map _).symm
    _ ≤ (List.range wiring.size).length := (coherent.openNodup.subperm inGraph).length_le
    _ = wiring.size := List.length_range

theorem drain_of_idle (idle : state.stack = []) (fuel : Nat) :
    state.drain wiring fuel = state := by
  cases fuel with
  | zero => rfl
  | succ fuel => rw [drain, idle, List.isEmpty_nil, if_pos rfl]

/-- Between two roots, the nodes that have been visited and the fresh ones make up the graph. -/
theorem visited_add_freshWork (coherent : state.Coherent wiring) (idle : state.stack = []) :
    (state.finished.map (visitCost wiring)).sum + state.freshWork wiring = budget wiring := by
  have visited : state.finished.toFinset =
      {node ∈ Finset.range wiring.size | ¬ state.mark node = .fresh} := by
    ext node
    rw [List.mem_toFinset, Finset.mem_filter, Finset.mem_range]
    constructor
    · intro member
      have done := (coherent.done node).mpr member
      have bound := coherent.size ▸ (Array.getElem?_eq_some_iff.mp done).1
      exact ⟨bound, by simp [mark_eq_fresh_iff, done]⟩
    · rintro ⟨bound, reached⟩
      refine (seen_of_mark_ne_fresh coherent bound reached).resolve_left ?_
      simp [openNodes, idle]
  rw [← List.sum_toFinset _ coherent.finishedNodup, visited, freshWork, ← Finset.sum_filter,
    add_comm, Finset.sum_filter_add_sum_filter_not, budget_eq_sum]

end State

/-- The node of the frame that a step has put on the stack. -/
def pushed? (before after : State) : Option Nat :=
  if before.stack.length < after.stack.length then after.openNodes.head? else none

/-- The nodes that are pushed in the course of some states, in order. -/
def pushes : List State → List Nat
  | before :: after :: later => (pushed? before after).toList ++ pushes (after :: later)
  | _ => []

/-- The states push each node at most once, and none that is not fresh in a state before them. -/
structure PushesOnce (before : State) (states : List State) : Prop where
  nodup : (pushes states).Nodup
  fresh : ∀ node ∈ pushes states, before.mark node = .fresh

/-- A step pushes none but fresh nodes, which are not fresh any more then, and it makes no node
fresh. -/
structure Reaches (before after : State) : Prop where
  pushed : ∀ node ∈ pushed? before after, before.mark node = .fresh ∧ after.mark node ≠ .fresh
  ages : ∀ node, after.mark node = .fresh → before.mark node = .fresh

theorem fresh_of_setIfInBounds {stack : List Frame} {finished : List Nat} {node other : Nat}
    {mark : Mark} (reached : mark ≠ .fresh)
    (fresh : State.mark ⟨state.marks.setIfInBounds node mark, stack, finished⟩ other = .fresh) :
    other ≠ node ∧ state.mark other = .fresh := by
  by_cases same : node = other
  · subst other
    rw [State.mark_eq_fresh_iff, Array.getElem?_setIfInBounds] at fresh
    simp [reached] at fresh
  · rw [State.mark_setIfInBounds_of_ne same] at fresh
    exact ⟨Ne.symm same, fresh⟩

theorem reaches_enter (wiring : Wiring) (state : State) (node : Nat) :
    Reaches state (state.enter wiring node) := by
  unfold State.enter
  split
  · next fresh =>
      refine ⟨fun other pushed => ?_, fun other stillFresh => ?_⟩
      · have same : node = other := by simpa [pushed?, State.openNodes] using pushed
        subst other
        exact ⟨fresh, fun stillFresh => (fresh_of_setIfInBounds (by decide) stillFresh).1 rfl⟩
      · exact (fresh_of_setIfInBounds (by decide) stillFresh).2
  · exact ⟨fun other pushed => by simp [pushed?] at pushed, fun other => id⟩

theorem reaches_advance (wiring : Wiring) (state : State) :
    Reaches state (state.advance wiring) := by
  unfold State.advance
  split
  · exact ⟨fun other pushed => by simp [pushed?] at pushed, fun other => id⟩
  · next node below top =>
      refine ⟨fun other pushed => by simp [pushed?, top] at pushed, fun other fresh => ?_⟩
      exact (fresh_of_setIfInBounds (by decide) fresh).2
  · next node input pending below top =>
      have entered := reaches_enter wiring { state with stack := ⟨node, pending⟩ :: below } input
      refine ⟨fun other pushed => entered.pushed other ?_, entered.ages⟩
      simpa only [pushed?, top, List.length_cons] using pushed

/-! ## Runs -/

/-- The states that the loop passes through from a given one up to its end, and the roots that it
has not come to before.  Inputs are asked for of no other nodes than those whose marks are looked
up. -/
inductive Run (wiring : Wiring) : List Nat → State → List State → Prop
  | ended {state : State} : state.stack = [] → Run wiring [] state [state]
  | root {root : Nat} {later : List Nat} {state : State} {states : List State} :
      state.stack = [] → root < state.marks.size →
      Run wiring later (state.enter wiring root) states →
      Run wiring (root :: later) state (state :: states)
  | frame {node : Nat} {roots : List Nat} {state : State} {states : List State} :
      state.consulted? = some node → node < state.marks.size →
      Run wiring roots (state.advance wiring) states →
      Run wiring roots state (state :: states)

/-- How often a frame is processed in the course of some states. -/
def processed (states : List State) : Nat :=
  states.countP fun state => !state.stack.isEmpty

namespace Run

theorem unique {others : List State} (run : Run wiring roots state states)
    (other : Run wiring roots state others) : states = others := by
  induction run generalizing others with
  | ended idle =>
      cases other with
      | ended => rfl
      | frame consulted => exact absurd idle (State.busy_of_consulted consulted)
  | root idle _ _ inductionHypothesis =>
      cases other with
      | root _ _ rest => rw [inductionHypothesis rest]
      | frame consulted => exact absurd idle (State.busy_of_consulted consulted)
  | frame consulted _ _ inductionHypothesis =>
      cases other with
      | ended idle | root idle => exact absurd idle (State.busy_of_consulted consulted)
      | frame _ _ rest => rw [inductionHypothesis rest]

theorem getLast?_cons (run : Run wiring roots after states) (before : State) :
    (before :: states).getLast? = states.getLast? := by
  cases run <;> exact List.getLast?_cons_cons

theorem pushes_cons (run : Run wiring roots after states) (before : State) :
    pushes (before :: states) = (pushed? before after).toList ++ pushes states := by
  cases run <;> rfl

theorem coherent (run : Run wiring roots state states) (start : state.Coherent wiring) :
    ∀ passed ∈ states, passed.Coherent wiring := by
  induction run with
  | ended idle => simpa using start
  | root idle bound rest inductionHypothesis =>
      exact List.forall_mem_cons.mpr ⟨start, inductionHypothesis (start.enter _)⟩
  | frame consulted bound rest inductionHypothesis =>
      exact List.forall_mem_cons.mpr ⟨start, inductionHypothesis start.advance⟩

theorem pushesOnce_cons (run : Run wiring roots after states) (reaches : Reaches before after)
    (later : PushesOnce after states) : PushesOnce before (before :: states) := by
  have laterFresh : ∀ node ∈ pushes states, before.mark node = .fresh := fun node member =>
    reaches.ages node (later.fresh node member)
  have split := run.pushes_cons before
  cases pushed : pushed? before after with
  | none =>
      rw [pushed, Option.toList_none, List.nil_append] at split
      exact ⟨split ▸ later.nodup, split ▸ laterFresh⟩
  | some node =>
      rw [pushed, Option.toList_some, List.singleton_append] at split
      obtain ⟨fresh, reached⟩ := reaches.pushed node pushed
      have new : node ∉ pushes states := fun again => reached (later.fresh node again)
      exact ⟨split ▸ List.nodup_cons.mpr ⟨new, later.nodup⟩,
        split ▸ List.forall_mem_cons.mpr ⟨fresh, laterFresh⟩⟩

theorem pushesOnce (run : Run wiring roots state states) : PushesOnce state states := by
  induction run with
  | ended idle => exact ⟨List.nodup_nil, List.forall_mem_nil _⟩
  | root idle bound rest inductionHypothesis =>
      exact pushesOnce_cons rest (reaches_enter _ _ _) inductionHypothesis
  | frame consulted bound rest inductionHypothesis =>
      exact pushesOnce_cons rest (reaches_advance _ _) inductionHypothesis

/-- A run processes as many frames as it takes work away. -/
theorem processed_add_freshWork (run : Run wiring roots state states)
    (start : state.Coherent wiring) {last : State} (final : states.getLast? = some last) :
    processed states + last.freshWork wiring = state.work wiring := by
  induction run with
  | @ended state idle =>
      cases final
      simp [processed, State.work, State.stackWork, idle]
  | @root root later state states idle bound rest inductionHypothesis =>
      have counted := inductionHypothesis (start.enter root) (rest.getLast?_cons _ ▸ final)
      rw [State.work_enter start] at counted
      simpa [processed, idle] using counted
  | @frame node roots state states consulted bound rest inductionHypothesis =>
      have busy := State.busy_of_consulted consulted
      have counted := inductionHypothesis start.advance (rest.getLast?_cons _ ▸ final)
      have used := State.work_advance start busy
      have one : processed (state :: states) = processed states + 1 :=
        List.countP_cons_of_pos (by simpa using busy)
      omega

/-- A run ends where the bounded traversal does. -/
theorem getLast?_eq (run : Run wiring roots state states) (start : state.Coherent wiring)
    {fuel : Nat} (enough : state.work wiring ≤ fuel) :
    states.getLast? = some (roots.foldl (visitRoot wiring) (state.drain wiring fuel)) := by
  induction run generalizing fuel with
  | @ended state idle =>
      rw [List.foldl_nil, State.drain_of_idle idle]
      rfl
  | @root root later state states idle bound rest inductionHypothesis =>
      have within : (state.enter wiring root).work wiring ≤ budget wiring := by
        rw [State.work_enter start, State.work, idle]
        simpa [State.stackWork] using state.freshWork_le_budget wiring
      rw [rest.getLast?_cons, inductionHypothesis (start.enter root) within, List.foldl_cons,
        State.drain_of_idle idle, visitRoot]
  | @frame node roots state states consulted bound rest inductionHypothesis =>
      have busy := State.busy_of_consulted consulted
      have used := State.work_advance start busy
      obtain ⟨less, rfl⟩ : ∃ less, fuel = less + 1 := ⟨fuel - 1, by omega⟩
      have enoughThen : (state.advance wiring).work wiring ≤ less := by omega
      rw [rest.getLast?_cons, inductionHypothesis start.advance enoughThen,
        State.drain, if_neg (by simpa using busy)]

/-- The whole run ends where the bounded traversal does. -/
theorem getLast?_initial (run : Run wiring roots (.initial wiring) states) :
    states.getLast? = some (roots.foldl (visitRoot wiring) (.initial wiring)) := by
  have idle : (State.initial wiring).stack = [] := rfl
  rw [run.getLast?_eq (State.coherent_initial wiring) (Nat.le_refl _), State.drain_of_idle idle]

/-- The whole run processes frames as often as the visits of the nodes that it lists take. -/
theorem processed_eq (run : Run wiring roots (.initial wiring) states)
    (idle : (roots.foldl (visitRoot wiring) (.initial wiring)).stack = []) :
    processed states = ((wiring.postOrder roots).map (visitCost wiring)).sum := by
  have start := State.coherent_initial wiring
  have counted := run.processed_add_freshWork start run.getLast?_initial
  have whole := State.visited_add_freshWork start rfl
  have parts := State.visited_add_freshWork (coherent_visitRoots roots start) idle
  have first : (State.initial wiring).work wiring = (State.initial wiring).freshWork wiring :=
    Nat.zero_add _
  have none : ((State.initial wiring).finished.map (visitCost wiring)).sum = 0 := rfl
  rw [Wiring.postOrder, List.map_reverse, List.sum_reverse]
  omega

end Run

theorem sum_visitCost (wiring : Wiring) (order : List Nat) :
    (order.map (visitCost wiring)).sum =
      order.length + (order.map fun node => (wiring.inputs node).length).sum := by
  unfold visitCost
  rw [List.sum_map_add, List.map_const', List.sum_replicate_nat, Nat.mul_one, Nat.add_comm]

/-- Each step uses up a root or a unit of work, so there is a run to the end. -/
theorem exists_run (inRange : wiring.InRange) {later : List Nat}
    (explores : state.Explores wiring roots) (members : ∀ root ∈ later, root ∈ roots)
    (bounds : ∀ root ∈ later, root < wiring.size) : ∃ states, Run wiring later state states := by
  induction amount : later.length + state.work wiring using Nat.strong_induction_on
    generalizing later state with
  | h amount inductionHypothesis =>
      cases consulted : state.consulted? with
      | some node =>
          have used := State.work_advance explores.coherent (State.busy_of_consulted consulted)
          obtain ⟨states, run⟩ := inductionHypothesis _ (by omega) (explores.advance inRange)
            members bounds rfl
          exact ⟨state :: states, .frame consulted (explores.consulted?_lt inRange consulted) run⟩
      | none =>
          have idle := State.consulted?_eq_none_iff.mp consulted
          cases later with
          | nil => exact ⟨[state], .ended idle⟩
          | cons root later =>
              obtain ⟨member, laterMembers⟩ := List.forall_mem_cons.mp members
              obtain ⟨bound, laterBounds⟩ := List.forall_mem_cons.mp bounds
              have same := State.work_enter explores.coherent root
              rw [List.length_cons] at amount
              obtain ⟨states, run⟩ := inductionHypothesis _ (by omega)
                (explores.enter bound (.root member)) laterMembers laterBounds rfl
              exact ⟨state :: states, .root idle (explores.coherent.size ▸ bound) run⟩

end Circuitry.Traversal

namespace Circuitry.Wiring

open Traversal

/-- The loop has one run on every graph whose inputs are nodes of it, and the run ends without
looking up a node outside of the graph.  At each of its states the open nodes are those on the
stack, which has no more frames than there are nodes; no node is pushed twice; a frame is processed
once for each node that is visited and once for each of its inputs; and the order that is returned
holds the reachable nodes, each once. -/
theorem traversal_ends {wiring : Wiring} (inRange : wiring.InRange) {roots : List Nat}
    (bounds : ∀ root ∈ roots, root < wiring.size) :
    (∃! states, Run wiring roots (.initial wiring) states) ∧
      ∀ states, Run wiring roots (.initial wiring) states →
        (∀ state ∈ states,
          (∀ node, state.marks[node]? = some .opened ↔ node ∈ state.openNodes) ∧
            state.stack.length ≤ wiring.size) ∧
        (pushes states).Nodup ∧
        processed states = (wiring.postOrder roots).length +
          ((wiring.postOrder roots).map fun node => (wiring.inputs node).length).sum ∧
        (∃ last, states.getLast? = some last ∧ last.stack = [] ∧
          last.finished.reverse = wiring.postOrder roots) ∧
        (wiring.postOrder roots).Nodup ∧
        ∀ node, node ∈ wiring.postOrder roots ↔ wiring.Reachable roots node := by
  refine ⟨?_, fun states run => ?_⟩
  · obtain ⟨states, run⟩ := exists_run inRange (State.explores_initial wiring roots)
      (fun _ member => member) bounds
    exact ⟨states, run, fun _ other => other.unique run⟩
  · have coherent := run.coherent (State.coherent_initial wiring)
    have idle := ((rests_initial wiring roots).visitRoots inRange roots (fun _ member => member)
      bounds).1.idle
    refine ⟨fun state passed => ?_, run.pushesOnce.nodup, ?_, ⟨_, run.getLast?_initial, idle, rfl⟩,
      wiring.nodup_postOrder roots, mem_postOrder_iff inRange bounds⟩
    · exact ⟨(coherent state passed).opened, (coherent state passed).length_stack_le⟩
    · rw [run.processed_eq idle, sum_visitCost]

/-- A graph with a cycle of three nodes, nodes that consume themselves or one input twice, and a
node that none of the others consumes. -/
def knotted : Wiring where
  size := 5
  inputs
    | 0 => [0, 1, 1]
    | 1 => [2]
    | 2 => [0, 3]
    | 3 => [1, 3]
    | _ => [4]

/-- Four nodes with eight inputs are visited from the first root, and the others add nothing. -/
theorem traversal_ends_knotted :
    knotted.InRange ∧ (∀ root ∈ [2, 0, 2], root < knotted.size) ∧
      ∃ states, Run knotted [2, 0, 2] (.initial knotted) states ∧ (pushes states).Nodup ∧
        processed states = 4 + 8 ∧ ∀ state ∈ states, state.stack.length ≤ 5 := by
  have inRange : knotted.InRange := by
    unfold InRange knotted
    decide
  have bounds : ∀ root ∈ [2, 0, 2], root < knotted.size := by decide
  have order : knotted.postOrder [2, 0, 2] = [1, 0, 3, 2] := by decide
  obtain ⟨⟨states, run, -⟩, exactly⟩ := traversal_ends inRange bounds
  obtain ⟨each, once, frames, -⟩ := exactly states run
  rw [order] at frames
  exact ⟨inRange, bounds, states, run, once, frames, fun state passed => (each state passed).2⟩

end Circuitry.Wiring
