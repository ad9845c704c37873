import Circuitry.Catalogue.Kind
import Circuitry.Error
import Circuitry.Numbered
import Circuitry.Proofs.Ledger.Pairs

/-!
# The history of a ledger

Calls on a ledger of circuits are performed a second time on a history, which is one list of pairs
in the order in which they were accepted.  A registration appends to it and a rollback truncates
it.  The two give the same replies, and at every moment the ledger records exactly the history.
-/

namespace Circuitry

variable {κ : Type} [Vocabulary κ] {γ : Type} [BEq γ]

/-- A call that may change a ledger of circuits, or asks for a checkpoint. -/
inductive LedgerCall (κ : Type) [Vocabulary κ] (γ : Type)
  | register (circuit : Circuit κ) (output : γ)
  | checkpoint
  | rollback (mark : Nat)

inductive LedgerReply (κ γ : Type)
  | registered (result : Except (CompileError κ γ) Unit)
  | marked (mark : Nat)
  | dropped (count : Nat)

namespace LedgerCall

def onLedger (ledger : Ledger (Circuit κ) γ) :
    LedgerCall κ γ → LedgerReply κ γ × Ledger (Circuit κ) γ
  | register circuit output =>
    match ledger.register circuit output with
    | .ok grown => (.registered (.ok ()), grown)
    | .error conflict => (.registered (.error (.ofConflict circuit output conflict)), ledger)
  | checkpoint => (.marked ledger.checkpoint, ledger)
  | rollback mark => (.dropped (ledger.rollback mark).2, (ledger.rollback mark).1)

/-- A registration appends if neither side occurs, where the circuit is looked for first; a
rollback keeps as many of the oldest pairs as its mark says. -/
def onHistory (history : List (Circuit κ × γ)) :
    LedgerCall κ γ → LedgerReply κ γ × List (Circuit κ × γ)
  | register circuit output =>
    match history.find? fun pair => pair.1.id == circuit.id with
    | some held => (.registered (.error (.circuitTaken circuit.id held.2)), history)
    | none =>
      match history.find? fun pair => pair.2 == output with
      | some held => (.registered (.error (.outputTaken output held.1.id)), history)
      | none => (.registered (.ok ()), history ++ [(circuit, output)])
  | checkpoint => (.marked history.length, history)
  | rollback mark => (.dropped (history.length - mark), history.take mark)

/-- Performs calls in turn; gives the replies and what is left. -/
def performAll {σ : Type} (perform : σ → LedgerCall κ γ → LedgerReply κ γ × σ) :
    List (LedgerCall κ γ) → σ → List (LedgerReply κ γ) × σ
  | [], state => ([], state)
  | call :: rest, state =>
    let first := perform state call
    let others := performAll perform rest first.2
    (first.1 :: others.1, others.2)

end LedgerCall

namespace Ledger

/-- The ledger answers every question as the history says.  Circuits are told apart by identity and
outputs by their own comparison. -/
structure Records (ledger : Ledger (Circuit κ) γ) (history : List (Circuit κ × γ)) : Prop where
  circuitsDistinct : (history.map (·.1.id)).Nodup
  outputsDistinct : (history.map (·.2)).Pairwise fun left right => (left == right) = false
  valueOf : ∀ circuit output,
    ledger.valueOf? circuit = some output ↔
      ∃ pair ∈ history, pair.1.id = circuit.id ∧ pair.2 = output
  keyOf : ∀ output circuit,
    ledger.keyOf? output = some circuit ↔
      ∃ pair ∈ history, (output == pair.2) = true ∧ pair.1 = circuit
  keyOfValue : ∀ circuit output, ledger.valueOf? circuit = some output →
    ∃ holder, ledger.keyOf? output = some holder ∧ holder.id = circuit.id
  valueOfKey : ∀ output circuit, ledger.keyOf? output = some circuit →
    ∃ known, ledger.valueOf? circuit = some known ∧ (output == known) = true
  hasKey : ∀ circuit,
    ledger.hasKey circuit = true ↔ ∃ pair ∈ history, pair.1.id = circuit.id
  hasValue : ∀ output,
    ledger.hasValue output = true ↔ ∃ pair ∈ history, (output == pair.2) = true
  size : ledger.size = history.length
  isEmpty : ledger.isEmpty = true ↔ history = []
  pairs : ledger.forward.Perm history
  journal : ledger.journal.reverse = history.map (·.1)

/-- The ledger lists the history backwards; this is what the calls keep. -/
structure Lists (ledger : Ledger (Circuit κ) γ) (history : List (Circuit κ × γ)) : Prop where
  consistent : Consistent ledger
  forward : ledger.forward = history.reverse

namespace Lists

variable {ledger : Ledger (Circuit κ) γ} {history : List (Circuit κ × γ)}

theorem eq_ofPairs (lists : Lists ledger history) : ledger = ofPairs history.reverse := by
  rw [← lists.forward]
  exact lists.consistent.listed

theorem size_eq (lists : Lists ledger history) : ledger.size = history.length := by
  unfold size
  rw [lists.forward, List.length_reverse]

theorem mem_iff (lists : Lists ledger history) (pair : Circuit κ × γ) :
    pair ∈ ledger.forward ↔ pair ∈ history := by
  rw [lists.forward, List.mem_reverse]

theorem valueOf?_eq_some_iff (lists : Lists ledger history) (circuit : Circuit κ) (output : γ) :
    ledger.valueOf? circuit = some output ↔
      ∃ pair ∈ history, pair.1.id = circuit.id ∧ pair.2 = output := by
  simp only [lists.consistent.valueOf?_eq_some_iff, lists.mem_iff, Circuit.beq_iff,
    eq_comm (a := circuit.id)]

theorem keyOf?_eq_some_iff [PartialEquivBEq γ]
    (lists : Lists ledger history) (output : γ) (circuit : Circuit κ) :
    ledger.keyOf? output = some circuit ↔
      ∃ pair ∈ history, (output == pair.2) = true ∧ pair.1 = circuit := by
  simp only [lists.consistent.keyOf?_eq_some_iff, lists.mem_iff]

theorem valueOf?_eq_none
    (lists : Lists ledger history) {circuit : Circuit κ}
    (missing : history.find? (fun pair => pair.1.id == circuit.id) = none) :
    ledger.valueOf? circuit = none := by
  refine (valueOf?_eq_none_iff circuit).mpr ?_
  intro held member
  have absent := List.find?_eq_none.mp missing held ((lists.mem_iff held).mp member)
  refine Bool.eq_false_iff.mpr fun same => absent ?_
  exact beq_iff_eq.mpr ((Circuit.beq_iff circuit held.1).mp same).symm

theorem keyOf?_eq_none [PartialEquivBEq γ]
    (lists : Lists ledger history) {output : γ}
    (missing : history.find? (fun pair => pair.2 == output) = none) :
    ledger.keyOf? output = none := by
  refine (lists.consistent.keyOf?_eq_none_iff output).mpr ?_
  intro held member
  have absent := List.find?_eq_none.mp missing held ((lists.mem_iff held).mp member)
  exact Bool.eq_false_iff.mpr fun same => absent (PartialEquivBEq.symm same)

theorem register [EquivBEq γ]
    (lists : Lists ledger history) (circuit : Circuit κ) (output : γ) :
    ((LedgerCall.register circuit output).onLedger ledger).1 =
        ((LedgerCall.register circuit output).onHistory history).1 ∧
      Lists ((LedgerCall.register circuit output).onLedger ledger).2
        ((LedgerCall.register circuit output).onHistory history).2 := by
  simp only [LedgerCall.onLedger, LedgerCall.onHistory, Ledger.register]
  cases circuitFound : history.find? fun pair => pair.1.id == circuit.id with
  | some held =>
      have sameCircuit := List.find?_some circuitFound
      simp only [beq_iff_eq] at sameCircuit
      have known : ledger.valueOf? circuit = some held.2 :=
        (lists.valueOf?_eq_some_iff circuit held.2).mpr
          ⟨held, List.mem_of_find?_eq_some circuitFound, sameCircuit, rfl⟩
      simp only [known]
      exact ⟨rfl, lists⟩
  | none =>
      simp only [lists.valueOf?_eq_none circuitFound]
      cases outputFound : history.find? fun pair => pair.2 == output with
      | some held =>
          have sameOutput := List.find?_some outputFound
          have known : ledger.keyOf? output = some held.1 :=
            (lists.keyOf?_eq_some_iff output held.1).mpr
              ⟨held, List.mem_of_find?_eq_some outputFound, PartialEquivBEq.symm sameOutput, rfl⟩
          simp only [known]
          exact ⟨rfl, lists⟩
      | none =>
          have accepted := (register_eq_ok_iff circuit output).mpr
            ⟨lists.valueOf?_eq_none circuitFound, lists.keyOf?_eq_none outputFound, rfl⟩
          obtain ⟨consistent, forward⟩ := lists.consistent.of_register accepted
          simp only [lists.keyOf?_eq_none outputFound]
          refine ⟨trivial, consistent, ?_⟩
          rw [List.reverse_append, ← lists.forward]
          rfl

theorem rollback [ReflBEq γ] (lists : Lists ledger history) (mark : Nat) :
    ((LedgerCall.rollback mark).onLedger ledger).1 =
        ((LedgerCall.rollback mark).onHistory history).1 ∧
      Lists ((LedgerCall.rollback mark).onLedger ledger).2
        ((LedgerCall.rollback mark).onHistory history).2 := by
  have rolled := rollback_ofPairs history.reverse mark
  have remaining :
      history.reverse.drop (history.reverse.length - mark) = (history.take mark).reverse := by
    rw [List.length_reverse, List.reverse_take]
  have unshared : Unshared (history.take mark).reverse := by
    rw [← remaining, ← lists.forward]
    exact lists.consistent.unshared.sublist (List.drop_sublist _ _)
  simp only [LedgerCall.onLedger, LedgerCall.onHistory]
  rw [lists.eq_ofPairs, rolled, remaining, List.length_reverse]
  exact ⟨rfl, consistent_ofPairs unshared, rfl⟩

/-- Every call gives the same reply on both sides, and the ledger goes on listing the history. -/
theorem call [EquivBEq γ] (lists : Lists ledger history) (call : LedgerCall κ γ) :
    (call.onLedger ledger).1 = (call.onHistory history).1 ∧
      Lists (call.onLedger ledger).2 (call.onHistory history).2 := by
  cases call with
  | register circuit output => exact lists.register circuit output
  | checkpoint =>
      refine ⟨congrArg LedgerReply.marked ?_, lists⟩
      rw [lists.consistent.checkpoint_eq, lists.size_eq]
  | rollback mark => exact lists.rollback mark

theorem performAll [EquivBEq γ] (calls : List (LedgerCall κ γ)) :
    ∀ {ledger : Ledger (Circuit κ) γ} {history : List (Circuit κ × γ)},
      Lists ledger history →
        (LedgerCall.performAll LedgerCall.onLedger calls ledger).1 =
            (LedgerCall.performAll LedgerCall.onHistory calls history).1 ∧
          Lists (LedgerCall.performAll LedgerCall.onLedger calls ledger).2
            (LedgerCall.performAll LedgerCall.onHistory calls history).2 := by
  induction calls with
  | nil =>
      intro ledger history lists
      exact ⟨rfl, lists⟩
  | cons call rest inductionHypothesis =>
      intro ledger history lists
      obtain ⟨sameReply, next⟩ := lists.call call
      obtain ⟨sameReplies, last⟩ := inductionHypothesis next
      refine ⟨?_, last⟩
      simp only [LedgerCall.performAll]
      rw [sameReply, sameReplies]

theorem records [EquivBEq γ] (lists : Lists ledger history) : Records ledger history := by
  have unshared : history.Pairwise fun left right =>
      (right.1 == left.1) = false ∧ (right.2 == left.2) = false := by
    have reversed := lists.consistent.unshared
    rw [lists.forward] at reversed
    exact List.pairwise_reverse.mp reversed
  refine
    { circuitsDistinct := ?_
      outputsDistinct := ?_
      valueOf := lists.valueOf?_eq_some_iff
      keyOf := lists.keyOf?_eq_some_iff
      keyOfValue := ?_
      valueOfKey := fun output circuit => lists.consistent.valueOf?_of_keyOf?
      hasKey := ?_
      hasValue := ?_
      size := ?_
      isEmpty := ?_
      pairs := ?_
      journal := ?_ }
  · refine List.pairwise_map.mpr (unshared.imp ?_)
    intro left right apart same
    have equal := (Circuit.beq_iff right.1 left.1).mpr same.symm
    rw [apart.1] at equal
    contradiction
  · refine List.pairwise_map.mpr (unshared.imp ?_)
    intro left right apart
    exact Bool.eq_false_iff.mpr fun same =>
      Bool.eq_false_iff.mp apart.2 (PartialEquivBEq.symm same)
  · intro circuit output found
    obtain ⟨holder, known, same⟩ := lists.consistent.keyOf?_of_valueOf? found
    exact ⟨holder, known, ((Circuit.beq_iff circuit holder).mp same).symm⟩
  · intro circuit
    unfold hasKey
    simp only [Option.isSome_iff_exists, lists.valueOf?_eq_some_iff]
    grind
  · intro output
    unfold hasValue
    simp only [Option.isSome_iff_exists, lists.keyOf?_eq_some_iff]
    grind
  · exact lists.size_eq
  · unfold isEmpty
    rw [lists.forward]
    simp
  · rw [lists.forward]
    exact List.reverse_perm history
  · rw [lists.consistent.journal_eq, lists.forward, List.map_reverse, List.reverse_reverse]

end Lists

/-- A ledger that begins empty refines its history through any registrations, checkpoints and
rollbacks: it gives the replies of the history, and records it after the last call. -/
theorem refines_history [EquivBEq γ] (calls : List (LedgerCall κ γ)) :
    (LedgerCall.performAll LedgerCall.onLedger calls (.empty : Ledger (Circuit κ) γ)).1 =
        (LedgerCall.performAll LedgerCall.onHistory calls []).1 ∧
      Records (LedgerCall.performAll LedgerCall.onLedger calls .empty).2
        (LedgerCall.performAll LedgerCall.onHistory calls []).2 := by
  have start : Lists (.empty : Ledger (Circuit κ) γ) [] := ⟨consistent_empty, rfl⟩
  obtain ⟨sameReplies, lists⟩ := Lists.performAll calls start
  exact ⟨sameReplies, lists.records⟩

/-- Calls with circuits one, two and three, and with texts that are told apart by their numbers. -/
def sampleCalls : List (LedgerCall Kind (Numbered String)) :=
  let circuit (number : Nat) : Circuit Kind := ⟨⟨number⟩, none, #[], []⟩
  [.register (circuit 1) ⟨0, 1, "first"⟩, .checkpoint,
    .register (circuit 2) ⟨0, 2, "second"⟩, .register (circuit 3) ⟨7, 1, "same as first"⟩,
    .register (circuit 1) ⟨0, 2, "both sides taken"⟩, .rollback 1,
    .register (circuit 3) ⟨0, 2, "second again"⟩, .rollback 9]

theorem refines_history_sample :
    EquivBEq (Numbered String) ∧
      ((LedgerCall.performAll LedgerCall.onLedger sampleCalls .empty).1 =
        [.registered (.ok ()), .marked 1, .registered (.ok ()),
          .registered (.error (.outputTaken ⟨7, 1, "same as first"⟩ ⟨1⟩)),
          .registered (.error (.circuitTaken ⟨1⟩ ⟨0, 1, "first"⟩)), .dropped 1,
          .registered (.ok ()), .dropped 0]) ∧
      Records (LedgerCall.performAll LedgerCall.onLedger sampleCalls .empty).2
        [(⟨⟨1⟩, none, #[], []⟩, ⟨0, 1, "first"⟩),
          (⟨⟨3⟩, none, #[], []⟩, ⟨0, 2, "second again"⟩)] := by
  obtain ⟨replies, recorded⟩ := refines_history sampleCalls
  exact ⟨inferInstance, replies.trans rfl, recorded⟩

end Ledger

end Circuitry
