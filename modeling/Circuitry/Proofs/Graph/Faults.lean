import Circuitry.Proofs.Graph.Built
import Mathlib.Logic.Basic

/-!
# The faults of a step

The checks that a builder makes in turn are read as one list of faults, in the order in which they
are looked for.  A step is refused with the first of them, and is done when there is none.
-/

namespace Circuitry

section FirstFault

variable {ε α β : Type}

/-- A value that is given when there are no faults; else the first fault is. -/
def unlessFaulty (faults : List ε) (value : α) : Except ε α :=
  match faults with
  | [] => .ok value
  | fault :: _ => .error fault

theorem unlessFaulty_of_empty {faults : List ε} (faultless : faults = []) (value : α) :
    unlessFaulty faults value = .ok value := by
  rw [faultless]
  rfl

theorem unlessFaulty_eq_ok_iff (faults : List ε) (value result : α) :
    unlessFaulty faults value = .ok result ↔ faults = [] ∧ value = result := by
  cases faults with
  | nil => simp [unlessFaulty]
  | cons => simp [unlessFaulty]

theorem ite_singleton_eq_nil_iff {faulty : Prop} [Decidable faulty] (fault : ε) :
    (if faulty then [fault] else []) = [] ↔ ¬ faulty := by
  by_cases found : faulty <;> simp [found]

/-- Checks that are made one after the other look for the faults of the first check first. -/
theorem unlessFaulty_bind {faults others : List ε} {seen : β} {next : β → Except ε α} {value : α}
    (rest : next seen = unlessFaulty others value) :
    unlessFaulty faults seen >>= next = unlessFaulty (faults ++ others) value := by
  cases faults with
  | nil => exact rest
  | cons => rfl

theorem unlessFaulty_bind_of_ok {faults : List ε} {seen : β} {next : β → Except ε α} {value : α}
    (done : next seen = .ok value) :
    unlessFaulty faults seen >>= next = unlessFaulty faults value := by
  cases faults with
  | nil => exact done
  | cons => rfl

end FirstFault

section Checks

variable {κ : Type}

/-- The fault of a node in a slot of another category. -/
def misplacements [Vocabulary κ] (slot : Category) (node : Node κ) : List (BuildError κ) :=
  if node.category ≠ slot then [.misplaced slot node.kind] else []

/-- The faults of references to nodes that have not been added. -/
def unknownReferences (slot : Category) (size : Nat) (indices : List Nat) : List (BuildError κ) :=
  (indices.filter fun index => size ≤ index).map fun index => .unknownReference slot index size

theorem misplacements_eq_nil_iff [Vocabulary κ] (slot : Category) (node : Node κ) :
    misplacements slot node = [] ↔ node.category = slot := by
  unfold misplacements
  rw [ite_singleton_eq_nil_iff, not_not]

theorem unknownReferences_eq_nil_iff (slot : Category) (size : Nat) (indices : List Nat) :
    unknownReferences (κ := κ) slot size indices = [] ↔ ∀ index ∈ indices, index < size := by
  unfold unknownReferences
  rw [List.map_eq_nil_iff, List.filter_eq_nil_iff]
  simp only [decide_eq_true_eq, Nat.not_le]

theorem requireCategory_eq [Vocabulary κ] (slot : Category) (node : Node κ) :
    requireCategory slot node = unlessFaulty (misplacements slot node) () := by
  unfold requireCategory misplacements
  by_cases placed : node.category = slot
  · rw [if_pos placed, if_neg (not_not.mpr placed)]
    rfl
  · rw [if_neg placed, if_pos placed]
    rfl

theorem requireReferences_eq (slot : Category) (size : Nat) (indices : List Nat) :
    requireReferences slot size indices =
      unlessFaulty (unknownReferences (κ := κ) slot size indices) () := by
  induction indices with
  | nil => rfl
  | cons index rest inductionHypothesis =>
      unfold requireReferences
      by_cases known : index < size
      · have kept : unknownReferences (κ := κ) slot size (index :: rest) =
            unknownReferences slot size rest := by
          simp [unknownReferences, known]
        rw [if_pos known, kept, inductionHypothesis]
      · have first : unknownReferences (κ := κ) slot size (index :: rest) =
            .unknownReference slot index size :: unknownReferences slot size rest := by
          simp [unknownReferences, Nat.not_lt.mp known]
        rw [if_neg known, first]
        rfl

end Checks

variable {κ : Type} [Vocabulary κ]

namespace ParameterGraphBuilder

/-- What is wrong with adding a node: its category, that of its initializer, its inputs. -/
def pushFaults (builder : ParameterGraphBuilder κ) (node : Node κ) (inputs : List Nat)
    (initializer : Option (Node κ)) : List (BuildError κ) :=
  misplacements .parameter node ++
    (initializer.elim [] (misplacements .initializer) ++
      unknownReferences .parameter builder.entries.size inputs)

def finishFaults (builder : ParameterGraphBuilder κ) (output : Nat) : List (BuildError κ) :=
  (if builder.entries.isEmpty then [.parameterGraphWithoutNodes] else []) ++
    unknownReferences .parameter builder.entries.size [output]

theorem push_eq (builder : ParameterGraphBuilder κ) (node : Node κ) (inputs : List Nat)
    (initializer : Option (Node κ)) :
    builder.push node inputs initializer =
      unlessFaulty (builder.pushFaults node inputs initializer)
        (builder.entries.size, ⟨builder.entries.push ⟨node, inputs, initializer⟩⟩) := by
  unfold push pushFaults
  rw [requireCategory_eq, requireReferences_eq]
  refine unlessFaulty_bind ?_
  cases initializer with
  | none => exact unlessFaulty_bind_of_ok rfl
  | some initial =>
      dsimp only
      rw [requireCategory_eq]
      exact unlessFaulty_bind (unlessFaulty_bind_of_ok rfl)

theorem finish_eq (builder : ParameterGraphBuilder κ) (output : Nat) :
    builder.finish output =
      unlessFaulty (builder.finishFaults output) ⟨builder.entries, output⟩ := by
  unfold finish finishFaults
  rw [requireReferences_eq]
  by_cases empty : builder.entries.isEmpty
  · rw [if_pos empty, if_pos empty]
    rfl
  · rw [if_neg empty, if_neg empty]
    exact unlessFaulty_bind_of_ok rfl

end ParameterGraphBuilder

namespace CircuitBuilder

/-- What is wrong with adding a layer: its category, its inputs. -/
def pushFaults (builder : CircuitBuilder κ) (node : Node κ) (inputs : List Nat) :
    List (BuildError κ) :=
  misplacements .layer node ++ unknownReferences .layer builder.layers.size inputs

/-- What is wrong with completing a circuit: it has no outputs, or some are not layers. -/
def finishFaults (builder : CircuitBuilder κ) (outputs : List Nat) : List (BuildError κ) :=
  (if outputs.isEmpty then [.circuitWithoutOutputs] else []) ++
    unknownReferences .layer builder.layers.size outputs

theorem push_eq (builder : CircuitBuilder κ) (node : Node κ) (inputs : List Nat)
    (parameters : List (String × ParameterGraph κ)) :
    builder.push node inputs parameters =
      unlessFaulty (builder.pushFaults node inputs)
        (builder.layers.size,
          { builder with layers := builder.layers.push ⟨node, inputs, parameters⟩ }) := by
  unfold push pushFaults
  rw [requireCategory_eq, requireReferences_eq]
  exact unlessFaulty_bind (unlessFaulty_bind_of_ok rfl)

theorem finish_eq (builder : CircuitBuilder κ) (supply : Supply) (outputs : List Nat) :
    builder.finish supply outputs =
      unlessFaulty (builder.finishFaults outputs)
        (⟨supply.next, builder.name, builder.layers, outputs⟩, supply.advance) := by
  unfold finish finishFaults
  rw [requireReferences_eq]
  by_cases empty : outputs.isEmpty
  · rw [if_pos empty, if_pos empty]
    rfl
  · rw [if_neg empty, if_neg empty]
    exact unlessFaulty_bind_of_ok rfl

end CircuitBuilder

end Circuitry
