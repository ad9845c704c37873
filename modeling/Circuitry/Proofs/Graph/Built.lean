import Circuitry.Graph.Circuit
import Circuitry.Proofs.Traversal.Topological

/-!
# What builders make

Circuits and parameter graphs come from builders only.  A builder accepts a node only with
references to nodes that it has already, so in what it completes every input comes before its
consumer, and outputs are nodes.
-/

namespace Circuitry

theorem ok_of_bind_eq_ok {ε α β : Type} {check : Except ε α} {next : α → Except ε β} {value : β}
    (passed : check >>= next = .ok value) :
    ∃ seen, check = .ok seen ∧ next seen = .ok value := by
  cases check with
  | error error => cases passed
  | ok seen => exact ⟨seen, rfl, passed⟩

theorem lt_of_requireReferences {κ : Type} {slot : Category} {size : Nat} {indices : List Nat}
    (passed : (requireReferences slot size indices : Except (BuildError κ) Unit) = .ok ()) :
    ∀ index ∈ indices, index < size := by
  induction indices with
  | nil => simp
  | cons index rest inductionHypothesis =>
      unfold requireReferences at passed
      split at passed
      · next known => exact List.forall_mem_cons.mpr ⟨known, inductionHypothesis passed⟩
      · contradiction

/-- The links of each entry lead to earlier entries. -/
def LinksBack {α : Type} (links : α → List Nat) (entries : Array α) : Prop :=
  ∀ index entry, entries[index]? = some entry → ∀ link ∈ links entry, link < index

section LinksBack

variable {α : Type} {links : α → List Nat} {entries : Array α}

theorem linksBack_empty (links : α → List Nat) : LinksBack links #[] := by
  intro index entry found
  simp at found

theorem LinksBack.push (back : LinksBack links entries) {entry : α}
    (known : ∀ link ∈ links entry, link < entries.size) :
    LinksBack links (entries.push entry) := by
  intro index other found
  rw [Array.getElem?_push] at found
  split at found
  · next newest =>
      cases found
      exact newest ▸ known
  · exact back index other found

/-- The table with the links of its entries, as they are looked up. -/
theorem LinksBack.descending (back : LinksBack links entries) :
    Wiring.Descending ⟨entries.size, fun index => (entries[index]?.map links).getD []⟩ := by
  intro index bound link member
  have found : entries[index]? = some entries[index] := Array.getElem?_eq_getElem bound
  dsimp only at member
  rw [found] at member
  exact back index entries[index] found link member

end LinksBack

variable {κ : Type} [Vocabulary κ]

namespace ParameterGraphBuilder

/-- The builder has been filled by adding nodes, one after the other. -/
inductive Filled : ParameterGraphBuilder κ → Prop
  | empty : Filled empty
  | push {builder grown : ParameterGraphBuilder κ} {node : Node κ} {inputs : List Nat}
      {initializer : Option (Node κ)} {index : Nat} :
      Filled builder → builder.push node inputs initializer = .ok (index, grown) → Filled grown

theorem push_eq_ok {builder grown : ParameterGraphBuilder κ} {node : Node κ} {inputs : List Nat}
    {initializer : Option (Node κ)} {index : Nat}
    (pushed : builder.push node inputs initializer = .ok (index, grown)) :
    (∀ input ∈ inputs, input < builder.entries.size) ∧
      grown.entries = builder.entries.push ⟨node, inputs, initializer⟩ := by
  obtain ⟨_, -, afterNode⟩ := ok_of_bind_eq_ok pushed
  have afterInitializer : (do
      requireReferences .parameter builder.entries.size inputs
      return (builder.entries.size, ⟨builder.entries.push ⟨node, inputs, initializer⟩⟩)) =
        Except.ok (ε := BuildError κ) (index, grown) := by
    cases initializer with
    | none => exact afterNode
    | some initial =>
        obtain ⟨_, -, afterInitial⟩ := ok_of_bind_eq_ok afterNode
        exact afterInitial
  obtain ⟨_, known, added⟩ := ok_of_bind_eq_ok afterInitializer
  cases added
  exact ⟨lt_of_requireReferences known, rfl⟩

theorem Filled.linksBack {builder : ParameterGraphBuilder κ} (filled : builder.Filled) :
    LinksBack (·.inputs) builder.entries := by
  induction filled with
  | empty => exact linksBack_empty _
  | push _ pushed inductionHypothesis =>
      obtain ⟨known, grown⟩ := push_eq_ok pushed
      rw [grown]
      exact inductionHypothesis.push known

/-- Adds nodes in turn, until one is refused. -/
def pushAll (builder : ParameterGraphBuilder κ) :
    List (ParameterEntry κ) → Except (BuildError κ) (ParameterGraphBuilder κ)
  | [] => .ok builder
  | entry :: rest => do
    let (_, grown) ← builder.push entry.node entry.inputs entry.initializer
    grown.pushAll rest

theorem Filled.pushAll (entries : List (ParameterEntry κ)) :
    ∀ {builder grown : ParameterGraphBuilder κ}, builder.Filled →
      builder.pushAll entries = .ok grown → grown.Filled := by
  induction entries with
  | nil =>
      intro builder grown filled added
      cases added
      exact filled
  | cons entry rest inductionHypothesis =>
      intro builder grown filled added
      obtain ⟨_, pushed, restAdded⟩ := ok_of_bind_eq_ok added
      exact inductionHypothesis (filled.push pushed) restAdded

theorem finish_eq_ok {builder : ParameterGraphBuilder κ} {output : Nat} {graph : ParameterGraph κ}
    (finished : builder.finish output = .ok graph) :
    output < builder.entries.size ∧ graph = ⟨builder.entries, output⟩ := by
  unfold finish at finished
  split at finished
  · cases finished
  · obtain ⟨_, known, completed⟩ := ok_of_bind_eq_ok finished
    cases completed
    exact ⟨lt_of_requireReferences known output List.mem_cons_self, rfl⟩

end ParameterGraphBuilder

namespace ParameterGraph

/-- A builder has completed the graph. -/
def Built (graph : ParameterGraph κ) : Prop :=
  ∃ (builder : ParameterGraphBuilder κ) (output : Nat),
    builder.Filled ∧ builder.finish output = .ok graph

/-- Inputs come before their consumers, and the output is a node. -/
structure Linked (graph : ParameterGraph κ) : Prop where
  inputs : LinksBack (·.inputs) graph.entries
  output : graph.output < graph.entries.size

theorem Built.linked {graph : ParameterGraph κ} (built : graph.Built) : graph.Linked := by
  obtain ⟨builder, output, filled, finished⟩ := built
  obtain ⟨bound, rfl⟩ := ParameterGraphBuilder.finish_eq_ok finished
  exact ⟨filled.linksBack, bound⟩

end ParameterGraph

namespace CircuitBuilder

/-- The builder has been filled by adding layers, with parameter graphs from builders, and has been
named any number of times on the way. -/
inductive Filled : CircuitBuilder κ → Prop
  | named (name : Option String) : Filled (named name)
  | rename {builder : CircuitBuilder κ} (name : String) :
      Filled builder → Filled { builder with name := some name }
  | push {builder grown : CircuitBuilder κ} {node : Node κ} {inputs : List Nat}
      {parameters : List (String × ParameterGraph κ)} {index : Nat} :
      Filled builder → (∀ parameter ∈ parameters, parameter.2.Built) →
      builder.push node inputs parameters = .ok (index, grown) → Filled grown

theorem push_eq_ok {builder grown : CircuitBuilder κ} {node : Node κ} {inputs : List Nat}
    {parameters : List (String × ParameterGraph κ)} {index : Nat}
    (pushed : builder.push node inputs parameters = .ok (index, grown)) :
    (∀ input ∈ inputs, input < builder.layers.size) ∧
      grown.layers = builder.layers.push ⟨node, inputs, parameters⟩ := by
  obtain ⟨_, -, afterNode⟩ := ok_of_bind_eq_ok pushed
  obtain ⟨_, known, added⟩ := ok_of_bind_eq_ok afterNode
  cases added
  exact ⟨lt_of_requireReferences known, rfl⟩

theorem Filled.linksBack {builder : CircuitBuilder κ} (filled : builder.Filled) :
    LinksBack (·.inputs) builder.layers := by
  induction filled with
  | named name => exact linksBack_empty _
  | rename name _ inductionHypothesis => exact inductionHypothesis
  | push _ _ pushed inductionHypothesis =>
      obtain ⟨known, grown⟩ := push_eq_ok pushed
      rw [grown]
      exact inductionHypothesis.push known

theorem Filled.parameters {builder : CircuitBuilder κ} (filled : builder.Filled) :
    ∀ layer ∈ builder.layers, ∀ parameter ∈ layer.parameters, parameter.2.Linked := by
  induction filled with
  | named name =>
      intro layer member
      exact absurd member (Array.not_mem_empty layer)
  | rename name _ inductionHypothesis => exact inductionHypothesis
  | push _ parametersBuilt pushed inductionHypothesis =>
      obtain ⟨-, grown⟩ := push_eq_ok pushed
      intro layer member parameter
      rw [grown] at member
      rcases Array.mem_push.mp member with before | rfl
      · exact inductionHypothesis layer before parameter
      · exact fun added => (parametersBuilt parameter added).linked

/-- Adds layers in turn, until one is refused. -/
def pushAll (builder : CircuitBuilder κ) :
    List (LayerEntry κ) → Except (BuildError κ) (CircuitBuilder κ)
  | [] => .ok builder
  | layer :: rest => do
    let (_, grown) ← builder.push layer.node layer.inputs layer.parameters
    grown.pushAll rest

theorem Filled.pushAll (layers : List (LayerEntry κ)) :
    ∀ {builder grown : CircuitBuilder κ}, builder.Filled →
      (∀ layer ∈ layers, ∀ parameter ∈ layer.parameters, parameter.2.Built) →
        builder.pushAll layers = .ok grown → grown.Filled := by
  induction layers with
  | nil =>
      intro builder grown filled _ added
      cases added
      exact filled
  | cons layer rest inductionHypothesis =>
      intro builder grown filled built added
      obtain ⟨layerBuilt, restBuilt⟩ := List.forall_mem_cons.mp built
      obtain ⟨_, pushed, restAdded⟩ := ok_of_bind_eq_ok added
      exact inductionHypothesis (filled.push layerBuilt pushed) restBuilt restAdded

theorem finish_eq_ok {builder : CircuitBuilder κ} {supply rest : Supply} {outputs : List Nat}
    {circuit : Circuit κ} (finished : builder.finish supply outputs = .ok (circuit, rest)) :
    outputs ≠ [] ∧ (∀ output ∈ outputs, output < builder.layers.size) ∧
      circuit = ⟨supply.next, builder.name, builder.layers, outputs⟩ := by
  unfold finish at finished
  split at finished
  · cases finished
  · next present =>
      obtain ⟨_, known, completed⟩ := ok_of_bind_eq_ok finished
      cases completed
      refine ⟨fun empty => present (by rw [empty]; rfl), lt_of_requireReferences known, rfl⟩

end CircuitBuilder

namespace Circuit

/-- A builder has completed the circuit. -/
def Built (circuit : Circuit κ) : Prop :=
  ∃ (builder : CircuitBuilder κ) (supply rest : Supply) (outputs : List Nat),
    builder.Filled ∧ builder.finish supply outputs = .ok (circuit, rest)

/-- Inputs come before their consumers, outputs are layers, and there is one. -/
structure Linked (circuit : Circuit κ) : Prop where
  inputs : LinksBack (·.inputs) circuit.layers
  parameters : ∀ layer ∈ circuit.layers, ∀ parameter ∈ layer.parameters, parameter.2.Linked
  outputs : ∀ output ∈ circuit.outputs, output < circuit.layers.size
  present : circuit.outputs ≠ []

theorem Built.linked {circuit : Circuit κ} (built : circuit.Built) : circuit.Linked := by
  obtain ⟨builder, supply, rest, outputs, filled, finished⟩ := built
  obtain ⟨present, bounds, rfl⟩ := CircuitBuilder.finish_eq_ok finished
  exact ⟨filled.linksBack, filled.parameters, bounds, present⟩

end Circuit

end Circuitry
