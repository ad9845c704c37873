import Circuitry.Proofs.Traversal.Budget

/-!
# The nodes that a traversal reaches

At every moment of a traversal the nodes that have been seen are reachable, and every input that has
been looked at has been seen.  When the stack is empty, the order is therefore closed under inputs
and holds exactly the nodes that are reachable from the roots, on cyclic graphs too.
-/

namespace Circuitry

namespace Wiring

/-- A node that the roots depend on: a root, or an input of such a node. -/
inductive Reachable (wiring : Wiring) (roots : List Nat) : Nat → Prop
  | root {node : Nat} : node ∈ roots → Reachable wiring roots node
  | input {consumer node : Nat} :
      Reachable wiring roots consumer → node ∈ wiring.inputs consumer →
      Reachable wiring roots node

/-- The inputs of nodes are nodes of the graph. -/
def InRange (wiring : Wiring) : Prop :=
  ∀ node < wiring.size, ∀ input ∈ wiring.inputs node, input < wiring.size

end Wiring

namespace Traversal

namespace State

variable {wiring : Wiring} {state : State} {roots : List Nat}

/-- The visit of the node has at least begun. -/
def Seen (state : State) (node : Nat) : Prop :=
  node ∈ state.openNodes ∨ node ∈ state.finished

@[simp] theorem finished_enter (node : Nat) :
    (state.enter wiring node).finished = state.finished := by
  unfold State.enter
  split <;> rfl

theorem mem_stack_enter {node : Nat} {frame : Frame}
    (member : frame ∈ (state.enter wiring node).stack) :
    frame = ⟨node, wiring.inputs node⟩ ∨ frame ∈ state.stack := by
  unfold State.enter at member
  split at member
  · exact List.mem_cons.mp member
  · exact Or.inr member

theorem Coherent.lt_of_mem_openNodes (coherent : Coherent wiring state) {node : Nat}
    (member : node ∈ state.openNodes) : node < wiring.size := by
  have opened := (coherent.opened node).mpr member
  rw [← coherent.size]
  exact (Array.getElem?_eq_some_iff.mp opened).1

theorem seen_of_mark_ne_fresh (coherent : Coherent wiring state) {node : Nat}
    (bound : node < wiring.size) (reached : state.mark node ≠ .fresh) : state.Seen node := by
  have marked : state.marks[node]? = some (state.mark node) := by
    have inBounds : node < state.marks.size := coherent.size.symm ▸ bound
    simp [mark, inBounds]
  cases mark : state.mark node with
  | fresh => exact absurd mark reached
  | opened => exact Or.inl ((coherent.opened node).mp (mark ▸ marked))
  | done => exact Or.inr ((coherent.done node).mp (mark ▸ marked))

theorem seen_enter_iff (coherent : Coherent wiring state) {node : Nat}
    (bound : node < wiring.size) (other : Nat) :
    (state.enter wiring node).Seen other ↔ other = node ∨ state.Seen other := by
  unfold State.enter
  split
  · simp [Seen, openNodes, or_assoc]
  · next reached =>
      constructor
      · exact Or.inr
      · rintro (rfl | seen)
        · exact seen_of_mark_ne_fresh coherent bound reached
        · exact seen

theorem seen_shorten_iff {node : Nat} {pending rest : List Nat} {below : List Frame}
    (top : state.stack = ⟨node, pending⟩ :: below) (other : Nat) :
    Seen { state with stack := ⟨node, rest⟩ :: below } other ↔ state.Seen other := by
  simp [Seen, openNodes, top]

/-- Ending a visit makes no difference to what has been seen. -/
theorem seen_finish_iff {node : Nat} {pending : List Nat} {below : List Frame} {marks : Array Mark}
    (top : state.stack = ⟨node, pending⟩ :: below) (other : Nat) :
    Seen ⟨marks, below, node :: state.finished⟩ other ↔ state.Seen other := by
  simp only [Seen, openNodes, top, List.map_cons, List.mem_cons]
  tauto

/-- The inputs that have been taken from a frame have been seen. -/
def Tracks (wiring : Wiring) (state : State) (frame : Frame) : Prop :=
  ∃ passed, wiring.inputs frame.node = passed ++ frame.pending ∧
    ∀ input ∈ passed, state.Seen input

/-- What has been seen is reachable, and what is done with has all of its inputs seen. -/
structure Explores (wiring : Wiring) (roots : List Nat) (state : State) : Prop where
  coherent : state.Coherent wiring
  reachable : ∀ node, state.Seen node → wiring.Reachable roots node
  frames : ∀ frame ∈ state.stack, state.Tracks wiring frame
  finished : ∀ node ∈ state.finished, ∀ input ∈ wiring.inputs node, state.Seen input

theorem Tracks.mono {later : State} {frame : Frame} (tracks : state.Tracks wiring frame)
    (seen : ∀ node, state.Seen node → later.Seen node) : later.Tracks wiring frame := by
  obtain ⟨passed, inputs, passedSeen⟩ := tracks
  exact ⟨passed, inputs, fun input member => seen input (passedSeen input member)⟩

theorem explores_initial (wiring : Wiring) (roots : List Nat) :
    (initial wiring).Explores wiring roots where
  coherent := coherent_initial wiring
  reachable node seen := by simp [Seen, initial, openNodes] at seen
  frames frame member := by cases member
  finished node member := by cases member

theorem Explores.enter (explores : state.Explores wiring roots) {node : Nat}
    (bound : node < wiring.size) (reachable : wiring.Reachable roots node) :
    (state.enter wiring node).Explores wiring roots := by
  have seen := seen_enter_iff explores.coherent bound
  have keeps : ∀ other, state.Seen other → (state.enter wiring node).Seen other :=
    fun other before => (seen other).mpr (Or.inr before)
  refine ⟨explores.coherent.enter node, ?_, ?_, ?_⟩
  · intro other seenThen
    rcases (seen other).mp seenThen with rfl | before
    · exact reachable
    · exact explores.reachable other before
  · intro frame member
    rcases mem_stack_enter member with rfl | before
    · exact ⟨[], rfl, by simp⟩
    · exact (explores.frames frame before).mono keeps
  · intro other member input consumed
    rw [finished_enter] at member
    exact keeps input (explores.finished other member input consumed)

theorem Explores.reachable_input (explores : state.Explores wiring roots) {node input : Nat}
    {pending : List Nat} {below : List Frame}
    (top : state.stack = ⟨node, input :: pending⟩ :: below) :
    input ∈ wiring.inputs node ∧ wiring.Reachable roots input := by
  obtain ⟨passed, inputs, -⟩ := explores.frames ⟨node, input :: pending⟩ (by simp [top])
  have consumed : input ∈ wiring.inputs node := by
    dsimp only at inputs
    rw [inputs]
    exact List.mem_append_right passed List.mem_cons_self
  exact ⟨consumed, .input (explores.reachable node (Or.inl (by simp [openNodes, top]))) consumed⟩

theorem lt_of_top (coherent : Coherent wiring state) {node : Nat} {pending : List Nat}
    {below : List Frame} (top : state.stack = ⟨node, pending⟩ :: below) : node < wiring.size :=
  coherent.lt_of_mem_openNodes (by simp [openNodes, top])

theorem Explores.look (inRange : wiring.InRange) (explores : state.Explores wiring roots)
    {node input : Nat} {pending : List Nat} {below : List Frame}
    (top : state.stack = ⟨node, input :: pending⟩ :: below) :
    (State.enter wiring { state with stack := ⟨node, pending⟩ :: below } input).Explores
      wiring roots := by
  obtain ⟨consumed, reachable⟩ := explores.reachable_input top
  have bound := inRange node (lt_of_top explores.coherent top) input consumed
  have coherent : State.Coherent wiring { state with stack := ⟨node, pending⟩ :: below } :=
    explores.coherent.shorten top
  have seen : ∀ other,
      (State.enter wiring { state with stack := ⟨node, pending⟩ :: below } input).Seen other ↔
        other = input ∨ state.Seen other := fun other => by
    rw [seen_enter_iff coherent bound, seen_shorten_iff top]
  have keeps := fun other before => (seen other).mpr (Or.inr before)
  refine ⟨coherent.enter input, ?_, ?_, ?_⟩
  · intro other seenThen
    rcases (seen other).mp seenThen with rfl | before
    · exact reachable
    · exact explores.reachable other before
  · intro frame member
    rcases mem_stack_enter member with rfl | onStack
    · exact ⟨[], rfl, by simp⟩
    · rcases List.mem_cons.mp onStack with rfl | inBelow
      · obtain ⟨passed, inputs, passedSeen⟩ :=
          explores.frames ⟨node, input :: pending⟩ (by simp [top])
        refine ⟨passed ++ [input], by simpa using inputs, ?_⟩
        intro other member
        rcases List.mem_append.mp member with before | now
        · exact keeps other (passedSeen other before)
        · exact (seen other).mpr (Or.inl (List.mem_singleton.mp now))
      · exact (explores.frames frame (by simp [top, inBelow])).mono keeps
  · intro other member input' consumed'
    rw [finished_enter] at member
    exact keeps input' (explores.finished other member input' consumed')

/-- A frame without pending inputs has all inputs of its node behind it. -/
theorem Explores.finish (explores : state.Explores wiring roots) {node : Nat}
    {below : List Frame} (top : state.stack = ⟨node, []⟩ :: below) :
    State.Explores wiring roots
      { marks := state.marks.setIfInBounds node .done
        stack := below
        finished := node :: state.finished } := by
  have seen : ∀ other,
      Seen ⟨state.marks.setIfInBounds node .done, below, node :: state.finished⟩ other ↔
        state.Seen other :=
    fun other => seen_finish_iff top other
  have keeps := fun other => (seen other).mpr
  refine ⟨explores.coherent.finish top, ?_, ?_, ?_⟩
  · intro other seenThen
    exact explores.reachable other ((seen other).mp seenThen)
  · intro frame member
    exact (explores.frames frame (by simp [top, member])).mono keeps
  · intro other member input consumed
    rcases List.mem_cons.mp member with rfl | before
    · obtain ⟨passed, inputs, passedSeen⟩ := explores.frames ⟨other, []⟩ (by simp [top])
      rw [List.append_nil] at inputs
      exact keeps input (passedSeen input (inputs ▸ consumed))
    · exact keeps input (explores.finished other before input consumed)

theorem Explores.advance (inRange : wiring.InRange) (explores : state.Explores wiring roots) :
    (state.advance wiring).Explores wiring roots := by
  unfold State.advance
  split
  · exact explores
  · next node below top => exact explores.finish top
  · next node input pending below top => exact explores.look inRange top

theorem seen_advance (inRange : wiring.InRange) (explores : state.Explores wiring roots)
    {node : Nat} (seen : state.Seen node) : (state.advance wiring).Seen node := by
  unfold State.advance
  split
  · exact seen
  · next ended below top => exact (seen_finish_iff top node).mpr seen
  · next consumer input pending below top =>
      have bound := inRange consumer (lt_of_top explores.coherent top) input
        (explores.reachable_input top).1
      exact (seen_enter_iff (explores.coherent.shorten top) bound node).mpr
        (Or.inr ((seen_shorten_iff top node).mpr seen))

theorem Explores.drain (inRange : wiring.InRange) (fuel : Nat) :
    ∀ {state : State}, state.Explores wiring roots →
      (state.drain wiring fuel).Explores wiring roots ∧
        ∀ node, state.Seen node → (state.drain wiring fuel).Seen node := by
  induction fuel with
  | zero =>
      intro state explores
      exact ⟨explores, fun _ seen => seen⟩
  | succ fuel inductionHypothesis =>
      intro state explores
      unfold State.drain
      split
      · exact ⟨explores, fun _ seen => seen⟩
      · obtain ⟨drained, keeps⟩ := inductionHypothesis (explores.advance inRange)
        exact ⟨drained, fun node seen => keeps node (seen_advance inRange explores seen)⟩

end State

variable {wiring : Wiring} {state : State} {roots : List Nat}

/-- After some roots, and between the visits of two roots. -/
structure Rests (wiring : Wiring) (roots : List Nat) (state : State) : Prop where
  explores : state.Explores wiring roots
  idle : state.stack = []

theorem Rests.visitRoot (inRange : wiring.InRange) (rests : Rests wiring roots state) {root : Nat}
    (member : root ∈ roots) (bound : root < wiring.size) :
    Rests wiring roots (visitRoot wiring state root) ∧
      (Traversal.visitRoot wiring state root).Seen root ∧
        ∀ node, state.Seen node → (Traversal.visitRoot wiring state root).Seen node := by
  have entered := rests.explores.enter bound (.root member)
  have seen := State.seen_enter_iff rests.explores.coherent bound
  obtain ⟨drained, keeps⟩ := State.Explores.drain inRange (budget wiring) entered
  exact ⟨⟨drained, stack_visitRoot rests.explores.coherent rests.idle root⟩,
    keeps root ((seen root).mpr (Or.inl rfl)),
    fun node before => keeps node ((seen node).mpr (Or.inr before))⟩

theorem Rests.visitRoots (inRange : wiring.InRange) (later : List Nat) :
    ∀ {state : State}, Rests wiring roots state → (∀ root ∈ later, root ∈ roots) →
      (∀ root ∈ later, root < wiring.size) →
        Rests wiring roots (later.foldl (Traversal.visitRoot wiring) state) ∧
          ∀ node, node ∈ later ∨ state.Seen node →
            (later.foldl (Traversal.visitRoot wiring) state).Seen node := by
  induction later with
  | nil =>
      intro state rests _ _
      exact ⟨rests, fun node either => either.resolve_left List.not_mem_nil⟩
  | cons root rest inductionHypothesis =>
      intro state rests members bounds
      obtain ⟨member, restMembers⟩ := List.forall_mem_cons.mp members
      obtain ⟨bound, restBounds⟩ := List.forall_mem_cons.mp bounds
      obtain ⟨visited, seenRoot, keeps⟩ := rests.visitRoot inRange member bound
      obtain ⟨ended, seen⟩ := inductionHypothesis visited restMembers restBounds
      refine ⟨ended, fun node either => ?_⟩
      rcases either with listed | before
      · rcases List.mem_cons.mp listed with rfl | inRest
        · exact seen node (Or.inr seenRoot)
        · exact seen node (Or.inl inRest)
      · exact seen node (Or.inr (keeps node before))

end Traversal

namespace Wiring

open Traversal

variable {wiring : Wiring} {roots : List Nat}

theorem rests_initial (wiring : Wiring) (roots : List Nat) :
    Rests wiring roots (State.initial wiring) :=
  ⟨State.explores_initial wiring roots, rfl⟩

theorem mem_postOrder_iff (inRange : wiring.InRange) (bounds : ∀ root ∈ roots, root < wiring.size)
    (node : Nat) : node ∈ wiring.postOrder roots ↔ wiring.Reachable roots node := by
  obtain ⟨rests, seen⟩ := (rests_initial wiring roots).visitRoots inRange roots
    (fun _ member => member) bounds
  unfold postOrder
  rw [List.mem_reverse]
  have finished : ∀ other,
      (roots.foldl (visitRoot wiring) (State.initial wiring)).Seen other →
        other ∈ (roots.foldl (visitRoot wiring) (State.initial wiring)).finished := by
    intro other seenThen
    refine seenThen.resolve_left ?_
    rw [State.openNodes, rests.idle]
    exact List.not_mem_nil
  constructor
  · intro member
    exact rests.explores.reachable node (Or.inr member)
  · intro reachable
    induction reachable with
    | root listed => exact finished _ (seen _ (Or.inl listed))
    | input _ consumed inductionHypothesis =>
        exact finished _ (rests.explores.finished _ inductionHypothesis _ consumed)

end Wiring

end Circuitry
