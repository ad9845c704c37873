import Circuitry.Catalogue.Kind
import Circuitry.Proofs.Graph.Faults
import Mathlib.Logic.Function.Basic
import Mathlib.Logic.Relation

/-!
# Building

Any number of builders of circuits and of parameter graphs are at work at a site, and calls on them
are interleaved in any way.  A call is either done or refused with its first fault, and then changes
nothing.  What the builders hold and what they have completed is well formed at every moment, and
the circuits are numbered in the order in which they are completed.
-/

namespace Circuitry

variable {κ : Type} [Vocabulary κ]

/-- Inputs come before their consumers, and nodes stand in slots of their own categories. -/
structure ParametersSound (entries : Array (ParameterEntry κ)) : Prop where
  inputs : LinksBack (·.inputs) entries
  nodes : ∀ entry ∈ entries, entry.node.category = .parameter
  initializers : ∀ entry ∈ entries, ∀ initial ∈ entry.initializer, initial.category = .initializer

theorem parametersSound_empty : ParametersSound (#[] : Array (ParameterEntry κ)) :=
  ⟨linksBack_empty _, by simp, by simp⟩

theorem ParametersSound.push {entries : Array (ParameterEntry κ)} {entry : ParameterEntry κ}
    (sound : ParametersSound entries) (known : ∀ input ∈ entry.inputs, input < entries.size)
    (category : entry.node.category = .parameter)
    (initial : ∀ initial ∈ entry.initializer, initial.category = .initializer) :
    ParametersSound (entries.push entry) where
  inputs := sound.inputs.push known
  nodes := Array.forall_mem_push.mpr ⟨category, sound.nodes⟩
  initializers := Array.forall_mem_push.mpr ⟨initial, sound.initializers⟩

structure ParameterGraph.Sound (graph : ParameterGraph κ) : Prop where
  entries : ParametersSound graph.entries
  output : graph.output < graph.entries.size

/-- Inputs come before their consumers, nodes are layers, and parameter graphs are well formed. -/
structure LayersSound (layers : Array (LayerEntry κ)) : Prop where
  inputs : LinksBack (·.inputs) layers
  nodes : ∀ layer ∈ layers, layer.node.category = .layer
  parameters : ∀ layer ∈ layers, ∀ parameter ∈ layer.parameters, parameter.2.Sound

theorem layersSound_empty : LayersSound (#[] : Array (LayerEntry κ)) :=
  ⟨linksBack_empty _, by simp, by simp⟩

theorem LayersSound.push {layers : Array (LayerEntry κ)} {layer : LayerEntry κ}
    (sound : LayersSound layers) (known : ∀ input ∈ layer.inputs, input < layers.size)
    (category : layer.node.category = .layer)
    (parameters : ∀ parameter ∈ layer.parameters, parameter.2.Sound) :
    LayersSound (layers.push layer) where
  inputs := sound.inputs.push known
  nodes := Array.forall_mem_push.mpr ⟨category, sound.nodes⟩
  parameters := Array.forall_mem_push.mpr ⟨parameters, sound.parameters⟩

structure Circuit.Sound (circuit : Circuit κ) : Prop where
  layers : LayersSound circuit.layers
  outputs : ∀ output ∈ circuit.outputs, output < circuit.layers.size
  present : circuit.outputs ≠ []

/-- No node depends on itself, directly or through others. -/
def Wiring.Acyclic (wiring : Wiring) : Prop :=
  ∀ node < wiring.size,
    ¬ Relation.TransGen (fun consumer input => input ∈ wiring.inputs consumer) node node

theorem Wiring.Descending.acyclic {wiring : Wiring} (descending : wiring.Descending) :
    wiring.Acyclic := by
  intro node bound depends
  have below : ∀ {target}, Relation.TransGen
      (fun consumer input => input ∈ wiring.inputs consumer) node target → target < node := by
    intro target path
    induction path with
    | single link => exact descending node bound _ link
    | tail _ link inductionHypothesis =>
        exact (descending _ (inductionHypothesis.trans bound) _ link).trans inductionHypothesis
  exact Nat.lt_irrefl node (below depends)

namespace ParameterGraphBuilder

/-- What a node to be added has to satisfy. -/
structure Admits (builder : ParameterGraphBuilder κ) (node : Node κ) (inputs : List Nat)
    (initializer : Option (Node κ)) : Prop where
  category : node.category = .parameter
  initializer : ∀ initial ∈ initializer, initial.category = .initializer
  inputs : ∀ input ∈ inputs, input < builder.entries.size

theorem admits_iff (builder : ParameterGraphBuilder κ) (node : Node κ) (inputs : List Nat)
    (initializer : Option (Node κ)) :
    builder.Admits node inputs initializer ↔ builder.pushFaults node inputs initializer = [] := by
  have initial : initializer.elim [] (misplacements .initializer) = [] ↔
      ∀ initial ∈ initializer, initial.category = .initializer := by
    cases initializer with
    | none => simp
    | some initial => simp [misplacements_eq_nil_iff]
  unfold pushFaults
  rw [List.append_eq_nil_iff, List.append_eq_nil_iff, misplacements_eq_nil_iff, initial,
    unknownReferences_eq_nil_iff]
  exact ⟨fun admits => ⟨admits.category, admits.initializer, admits.inputs⟩,
    fun ⟨category, initializer, inputs⟩ => ⟨category, initializer, inputs⟩⟩

theorem finishFaults_eq_nil_iff (builder : ParameterGraphBuilder κ) (output : Nat) :
    builder.finishFaults output = [] ↔
      0 < builder.entries.size ∧ output < builder.entries.size := by
  unfold finishFaults
  rw [List.append_eq_nil_iff, unknownReferences_eq_nil_iff, List.forall_mem_singleton]
  refine and_congr_left fun _ => ?_
  rw [ite_singleton_eq_nil_iff, Array.isEmpty_iff_size_eq_zero, Nat.pos_iff_ne_zero]

theorem admits_of_push {builder grown : ParameterGraphBuilder κ} {node : Node κ}
    {inputs : List Nat} {initializer : Option (Node κ)} {index : Nat}
    (pushed : builder.push node inputs initializer = .ok (index, grown)) :
    builder.Admits node inputs initializer ∧
      grown.entries = builder.entries.push ⟨node, inputs, initializer⟩ := by
  rw [push_eq, unlessFaulty_eq_ok_iff, ← admits_iff] at pushed
  obtain ⟨admits, added⟩ := pushed
  cases added
  exact ⟨admits, rfl⟩

theorem Filled.sound {builder : ParameterGraphBuilder κ} (filled : builder.Filled) :
    ParametersSound builder.entries := by
  induction filled with
  | empty => exact parametersSound_empty
  | push _ pushed inductionHypothesis =>
      obtain ⟨admits, grown⟩ := admits_of_push pushed
      rw [grown]
      exact inductionHypothesis.push admits.inputs admits.category admits.initializer

end ParameterGraphBuilder

theorem ParameterGraph.tensor_eq (node initializer : Node κ) :
    ParameterGraph.tensor node initializer =
      unlessFaulty (ParameterGraphBuilder.empty.pushFaults node [] (some initializer))
        ⟨#[⟨node, [], some initializer⟩], 0⟩ := by
  unfold tensor
  rw [ParameterGraphBuilder.push_eq]
  exact unlessFaulty_bind_of_ok rfl

theorem ParameterGraph.Built.sound {graph : ParameterGraph κ} (built : graph.Built) :
    graph.Sound := by
  have bound := built.linked.output
  obtain ⟨builder, output, filled, finished⟩ := built
  obtain ⟨-, rfl⟩ := ParameterGraphBuilder.finish_eq_ok finished
  exact ⟨filled.sound, bound⟩

namespace CircuitBuilder

/-- What a layer to be added has to satisfy. -/
structure Admits (builder : CircuitBuilder κ) (node : Node κ) (inputs : List Nat) : Prop where
  category : node.category = .layer
  inputs : ∀ input ∈ inputs, input < builder.layers.size

theorem admits_iff (builder : CircuitBuilder κ) (node : Node κ) (inputs : List Nat) :
    builder.Admits node inputs ↔ builder.pushFaults node inputs = [] := by
  unfold pushFaults
  rw [List.append_eq_nil_iff, misplacements_eq_nil_iff, unknownReferences_eq_nil_iff]
  exact ⟨fun admits => ⟨admits.category, admits.inputs⟩,
    fun ⟨category, inputs⟩ => ⟨category, inputs⟩⟩

theorem finishFaults_eq_nil_iff (builder : CircuitBuilder κ) (outputs : List Nat) :
    builder.finishFaults outputs = [] ↔
      outputs ≠ [] ∧ ∀ output ∈ outputs, output < builder.layers.size := by
  unfold finishFaults
  rw [List.append_eq_nil_iff, ite_singleton_eq_nil_iff, unknownReferences_eq_nil_iff,
    List.isEmpty_iff]

theorem admits_of_push {builder grown : CircuitBuilder κ} {node : Node κ} {inputs : List Nat}
    {parameters : List (String × ParameterGraph κ)} {index : Nat}
    (pushed : builder.push node inputs parameters = .ok (index, grown)) :
    builder.Admits node inputs ∧
      grown.layers = builder.layers.push ⟨node, inputs, parameters⟩ := by
  rw [push_eq, unlessFaulty_eq_ok_iff, ← admits_iff] at pushed
  obtain ⟨admits, added⟩ := pushed
  cases added
  exact ⟨admits, rfl⟩

theorem Filled.sound {builder : CircuitBuilder κ} (filled : builder.Filled) :
    LayersSound builder.layers := by
  induction filled with
  | named name => exact layersSound_empty
  | rename name _ inductionHypothesis => exact inductionHypothesis
  | push _ parametersBuilt pushed inductionHypothesis =>
      obtain ⟨admits, grown⟩ := admits_of_push pushed
      rw [grown]
      exact inductionHypothesis.push admits.inputs admits.category
        fun parameter added => (parametersBuilt parameter added).sound

end CircuitBuilder

theorem Circuit.Built.sound {circuit : Circuit κ} (built : circuit.Built) : circuit.Sound := by
  obtain ⟨builder, supply, rest, outputs, filled, finished⟩ := built
  obtain ⟨present, bounds, rfl⟩ := CircuitBuilder.finish_eq_ok finished
  exact ⟨filled.sound, bounds, present⟩

/-! ## A building site -/

/-- A place where any number of builders are at work, each with a number.  It keeps the circuits and
the parameter graphs that they complete, in order. -/
structure Site (κ : Type) [Vocabulary κ] where
  supply : Supply
  circuitBuilders : Nat → CircuitBuilder κ
  graphBuilders : Nat → ParameterGraphBuilder κ
  circuits : List (Circuit κ)
  graphs : List (ParameterGraph κ)

namespace Site

/-- The site where nothing has been built. -/
def opened (supply : Supply) : Site κ where
  supply := supply
  circuitBuilders _ := .named none
  graphBuilders _ := .empty
  circuits := []
  graphs := []

/-- The site with another circuit builder of a number. -/
def withCircuitBuilder (site : Site κ) (number : Nat) (builder : CircuitBuilder κ) : Site κ :=
  { site with circuitBuilders := Function.update site.circuitBuilders number builder }

def withGraphBuilder (site : Site κ) (number : Nat) (builder : ParameterGraphBuilder κ) : Site κ :=
  { site with graphBuilders := Function.update site.graphBuilders number builder }

end Site

/-- A call on a builder, which is given by its number, or the start of a new one. -/
inductive BuildCall (κ : Type) [Vocabulary κ]
  | startCircuit (builder : Nat) (name : Option String)
  | renameCircuit (builder : Nat) (name : String)
  | addLayer (builder : Nat) (node : Node κ) (inputs : List Nat)
      (parameters : List (String × { graph : ParameterGraph κ // graph.Built }))
  | finishCircuit (builder : Nat) (outputs : List Nat)
  | startGraph (builder : Nat)
  | addParameter (builder : Nat) (node : Node κ) (inputs : List Nat)
      (initializer : Option (Node κ))
  | finishGraph (builder : Nat) (output : Nat)
  /-- A parameter graph of a single node. -/
  | tensor (node initializer : Node κ)

/-- What a call that is done gives. -/
inductive BuildAnswer (κ : Type) [Vocabulary κ]
  | done
  | index (index : Nat)
  | circuit (circuit : Circuit κ)
  | graph (graph : ParameterGraph κ)

namespace BuildCall

/-- Makes a call; gives the answer and the site after it. -/
def attempt (site : Site κ) :
    BuildCall κ → Except (BuildError κ) (BuildAnswer κ × Site κ)
  | startCircuit builder name => return (.done, site.withCircuitBuilder builder (.named name))
  | renameCircuit builder name =>
    return (.done,
      site.withCircuitBuilder builder { site.circuitBuilders builder with name := some name })
  | addLayer builder node inputs parameters => do
    let (index, grown) ← (site.circuitBuilders builder).push node inputs
      (parameters.map fun parameter => (parameter.1, parameter.2.val))
    return (.index index, site.withCircuitBuilder builder grown)
  | finishCircuit builder outputs => do
    let (circuit, supply) ← (site.circuitBuilders builder).finish site.supply outputs
    return (.circuit circuit,
      { site with supply := supply, circuits := site.circuits ++ [circuit] })
  | startGraph builder => return (.done, site.withGraphBuilder builder .empty)
  | addParameter builder node inputs initializer => do
    let (index, grown) ← (site.graphBuilders builder).push node inputs initializer
    return (.index index, site.withGraphBuilder builder grown)
  | finishGraph builder output => do
    let graph ← (site.graphBuilders builder).finish output
    return (.graph graph, { site with graphs := site.graphs ++ [graph] })
  | tensor node initializer => do
    let graph ← ParameterGraph.tensor node initializer
    return (.graph graph, { site with graphs := site.graphs ++ [graph] })

/-- Makes a call; a call that is refused leaves the site as it is. -/
def perform (call : BuildCall κ) (site : Site κ) :
    Except (BuildError κ) (BuildAnswer κ) × Site κ :=
  match call.attempt site with
  | .ok (answer, next) => (.ok answer, next)
  | .error fault => (.error fault, site)

/-- The site after a number of calls. -/
def performAll (calls : List (BuildCall κ)) (site : Site κ) : Site κ :=
  calls.foldl (fun current call => (call.perform current).2) site

/-- What a call has to satisfy.  A layer and a parameter node need the category of their slot, and
inputs that have been added; an initializer needs its category; outputs are to be there. -/
def Admitted (site : Site κ) : BuildCall κ → Prop
  | addLayer builder node inputs _ => (site.circuitBuilders builder).Admits node inputs
  | finishCircuit builder outputs =>
    outputs ≠ [] ∧ ∀ output ∈ outputs, output < (site.circuitBuilders builder).layers.size
  | addParameter builder node inputs initializer =>
    (site.graphBuilders builder).Admits node inputs initializer
  | finishGraph builder output =>
    0 < (site.graphBuilders builder).entries.size ∧
      output < (site.graphBuilders builder).entries.size
  | tensor node initializer =>
    node.category = .parameter ∧ initializer.category = .initializer
  | startCircuit .. | renameCircuit .. | startGraph .. => True

/-- What is wrong with a call, in the order in which it is looked for. -/
def faults (site : Site κ) : BuildCall κ → List (BuildError κ)
  | addLayer builder node inputs _ => (site.circuitBuilders builder).pushFaults node inputs
  | finishCircuit builder outputs => (site.circuitBuilders builder).finishFaults outputs
  | addParameter builder node inputs initializer =>
    (site.graphBuilders builder).pushFaults node inputs initializer
  | finishGraph builder output => (site.graphBuilders builder).finishFaults output
  | tensor node initializer =>
    ParameterGraphBuilder.empty.pushFaults node [] (some initializer)
  | startCircuit .. | renameCircuit .. | startGraph .. => []

/-- What a call gives and leaves if nothing is wrong with it: an added node has the number of those
before it as its index, and a circuit takes the next identity. -/
def outcome (site : Site κ) : BuildCall κ → BuildAnswer κ × Site κ
  | startCircuit builder name => (.done, site.withCircuitBuilder builder (.named name))
  | renameCircuit builder name =>
    (.done, site.withCircuitBuilder builder { site.circuitBuilders builder with name := some name })
  | addLayer builder node inputs parameters =>
    let before := site.circuitBuilders builder
    let layer : LayerEntry κ :=
      ⟨node, inputs, parameters.map fun parameter => (parameter.1, parameter.2.val)⟩
    (.index before.layers.size,
      site.withCircuitBuilder builder { before with layers := before.layers.push layer })
  | finishCircuit builder outputs =>
    let before := site.circuitBuilders builder
    let circuit : Circuit κ := ⟨⟨site.supply.taken + 1⟩, before.name, before.layers, outputs⟩
    (.circuit circuit,
      { site with supply := ⟨site.supply.taken + 1⟩, circuits := site.circuits ++ [circuit] })
  | startGraph builder => (.done, site.withGraphBuilder builder .empty)
  | addParameter builder node inputs initializer =>
    let before := site.graphBuilders builder
    (.index before.entries.size,
      site.withGraphBuilder builder ⟨before.entries.push ⟨node, inputs, initializer⟩⟩)
  | finishGraph builder output =>
    let graph : ParameterGraph κ := ⟨(site.graphBuilders builder).entries, output⟩
    (.graph graph, { site with graphs := site.graphs ++ [graph] })
  | tensor node initializer =>
    let graph : ParameterGraph κ := ⟨#[⟨node, [], some initializer⟩], 0⟩
    (.graph graph, { site with graphs := site.graphs ++ [graph] })

theorem admitted_iff (call : BuildCall κ) (site : Site κ) :
    call.Admitted site ↔ call.faults site = [] := by
  cases call with
  | addLayer => exact CircuitBuilder.admits_iff _ _ _
  | finishCircuit => exact (CircuitBuilder.finishFaults_eq_nil_iff _ _).symm
  | addParameter => exact ParameterGraphBuilder.admits_iff _ _ _ _
  | finishGraph => exact (ParameterGraphBuilder.finishFaults_eq_nil_iff _ _).symm
  | tensor node initializer =>
      refine Iff.trans ?_ (ParameterGraphBuilder.admits_iff _ _ _ _)
      exact ⟨fun ⟨category, initial⟩ => ⟨category, by simpa using initial, by simp⟩,
        fun admits => ⟨admits.category, admits.initializer initializer rfl⟩⟩
  | startCircuit => exact iff_of_true trivial rfl
  | renameCircuit => exact iff_of_true trivial rfl
  | startGraph => exact iff_of_true trivial rfl

theorem attempt_eq (call : BuildCall κ) (site : Site κ) :
    call.attempt site = unlessFaulty (call.faults site) (call.outcome site) := by
  cases call with
  | addLayer builder node inputs parameters =>
      simp only [attempt]
      rw [CircuitBuilder.push_eq]
      exact unlessFaulty_bind_of_ok rfl
  | finishCircuit builder outputs =>
      simp only [attempt]
      rw [CircuitBuilder.finish_eq]
      exact unlessFaulty_bind_of_ok rfl
  | addParameter builder node inputs initializer =>
      simp only [attempt]
      rw [ParameterGraphBuilder.push_eq]
      exact unlessFaulty_bind_of_ok rfl
  | finishGraph builder output =>
      simp only [attempt]
      rw [ParameterGraphBuilder.finish_eq]
      exact unlessFaulty_bind_of_ok rfl
  | tensor node initializer =>
      simp only [attempt]
      rw [ParameterGraph.tensor_eq]
      exact unlessFaulty_bind_of_ok rfl
  | startCircuit => rfl
  | renameCircuit => rfl
  | startGraph => rfl

/-- A call that satisfies what is asked is done; any other is refused with its first fault. -/
theorem perform_eq (call : BuildCall κ) (site : Site κ) :
    (call.Admitted site → call.perform site = (.ok (call.outcome site).1, (call.outcome site).2)) ∧
      (¬ call.Admitted site →
        ∃ fault, (call.faults site).head? = some fault ∧
          call.perform site = (.error fault, site)) := by
  rw [admitted_iff]
  unfold perform
  rw [attempt_eq]
  constructor
  · intro faultless
    rw [unlessFaulty_of_empty faultless]
  · intro faulty
    obtain ⟨fault, rest, listed⟩ := List.exists_cons_of_ne_nil faulty
    refine ⟨fault, by rw [listed]; rfl, ?_⟩
    rw [listed]
    rfl

end BuildCall

/-! ## Any number of calls -/

namespace Site

/-- Everything at the site is well formed: what the builders hold and what they have completed.  The
circuits have consecutive numbers from the first one that had not been taken, so they are told apart
by the calls that completed them. -/
structure Sound (site : Site κ) (taken : Nat) : Prop where
  circuitBuilders : ∀ builder, LayersSound (site.circuitBuilders builder).layers
  graphBuilders : ∀ builder, ParametersSound (site.graphBuilders builder).entries
  graphs : ∀ graph ∈ site.graphs, graph.Sound ∧ graph.wiring.Acyclic
  circuits : ∀ circuit ∈ site.circuits, circuit.Sound ∧ circuit.wiring.Acyclic
  numbers : site.circuits.map (·.id.number) = List.range' (taken + 1) site.circuits.length
  supply : site.supply.taken = taken + site.circuits.length
  distinct : ∀ left right (leftBound : left < site.circuits.length)
    (rightBound : right < site.circuits.length),
      (site.circuits[left] == site.circuits[right]) = true ↔ left = right

/-- Builders have been filled by adding to them, and everything else has been completed by builders;
this is what the calls keep. -/
structure Filled (site : Site κ) (taken : Nat) : Prop where
  circuitBuilders : ∀ builder, (site.circuitBuilders builder).Filled
  graphBuilders : ∀ builder, (site.graphBuilders builder).Filled
  graphs : ∀ graph ∈ site.graphs, graph.Built
  circuits : ∀ circuit ∈ site.circuits, circuit.Built
  numbers : site.circuits.map (·.id.number) = List.range' (taken + 1) site.circuits.length
  supply : site.supply.taken = taken + site.circuits.length

namespace Filled

variable {site : Site κ} {taken : Nat}

theorem opened (taken : Nat) : (Site.opened ⟨taken⟩ : Site κ).Filled taken where
  circuitBuilders _ := .named none
  graphBuilders _ := .empty
  graphs := by simp [Site.opened]
  circuits := by simp [Site.opened]
  numbers := rfl
  supply := rfl

theorem withCircuitBuilder (filled : site.Filled taken) (number : Nat)
    {builder : CircuitBuilder κ} (builderFilled : builder.Filled) :
    (site.withCircuitBuilder number builder).Filled taken := by
  refine { filled with circuitBuilders := fun other => ?_ }
  change (Function.update site.circuitBuilders number builder other).Filled
  by_cases same : other = number
  · rw [same, Function.update_self]
    exact builderFilled
  · rw [Function.update_of_ne same]
    exact filled.circuitBuilders other

theorem withGraphBuilder (filled : site.Filled taken) (number : Nat)
    {builder : ParameterGraphBuilder κ} (builderFilled : builder.Filled) :
    (site.withGraphBuilder number builder).Filled taken := by
  refine { filled with graphBuilders := fun other => ?_ }
  change (Function.update site.graphBuilders number builder other).Filled
  by_cases same : other = number
  · rw [same, Function.update_self]
    exact builderFilled
  · rw [Function.update_of_ne same]
    exact filled.graphBuilders other

theorem withGraph (filled : site.Filled taken) {graph : ParameterGraph κ} (built : graph.Built) :
    ({ site with graphs := site.graphs ++ [graph] } : Site κ).Filled taken :=
  { filled with
    graphs := List.forall_mem_append.mpr ⟨filled.graphs, List.forall_mem_singleton.mpr built⟩ }

theorem withCircuit (filled : site.Filled taken) {circuit : Circuit κ} (built : circuit.Built)
    (numbered : circuit.id = site.supply.next) :
    ({ site with supply := site.supply.advance, circuits := site.circuits ++ [circuit] } :
      Site κ).Filled taken := by
  have number : circuit.id.number = taken + 1 + site.circuits.length := by
    have counted := filled.supply
    rw [numbered]
    simp only [Supply.next, counted]
    omega
  refine
    { filled with
      circuits := List.forall_mem_append.mpr
        ⟨filled.circuits, List.forall_mem_singleton.mpr built⟩
      numbers := ?_
      supply := ?_ }
  · rw [List.map_append, filled.numbers, List.map_singleton, number, List.length_append,
      List.length_singleton, List.range'_1_concat]
  · have counted := filled.supply
    simp only [Supply.advance, List.length_append, List.length_singleton]
    omega

theorem outcome (filled : site.Filled taken) {call : BuildCall κ} (admitted : call.Admitted site) :
    (call.outcome site).2.Filled taken := by
  have faultless := (call.admitted_iff site).mp admitted
  cases call with
  | startCircuit builder name => exact filled.withCircuitBuilder builder (.named name)
  | renameCircuit builder name =>
      exact filled.withCircuitBuilder builder (.rename name (filled.circuitBuilders builder))
  | addLayer builder node inputs parameters =>
      have pushed := (CircuitBuilder.push_eq _ _ _
        (parameters.map fun parameter => (parameter.1, parameter.2.val))).trans
          (unlessFaulty_of_empty faultless _)
      refine filled.withCircuitBuilder builder (.push (filled.circuitBuilders builder) ?_ pushed)
      intro parameter member
      obtain ⟨source, -, rfl⟩ := List.mem_map.mp member
      exact source.2.property
  | finishCircuit builder outputs =>
      refine filled.withCircuit ⟨_, _, _, _, filled.circuitBuilders builder,
        (CircuitBuilder.finish_eq _ _ _).trans (unlessFaulty_of_empty faultless _)⟩ rfl
  | startGraph builder => exact filled.withGraphBuilder builder .empty
  | addParameter builder node inputs initializer =>
      exact filled.withGraphBuilder builder (.push (filled.graphBuilders builder)
        ((ParameterGraphBuilder.push_eq _ _ _ _).trans (unlessFaulty_of_empty faultless _)))
  | finishGraph builder output =>
      exact filled.withGraph ⟨_, _, filled.graphBuilders builder,
        (ParameterGraphBuilder.finish_eq _ _).trans (unlessFaulty_of_empty faultless _)⟩
  | tensor node initializer =>
      have pushed := (ParameterGraphBuilder.push_eq .empty node [] (some initializer)).trans
        (unlessFaulty_of_empty faultless _)
      exact filled.withGraph ⟨_, 0, .push .empty pushed, rfl⟩

theorem perform (filled : site.Filled taken) (call : BuildCall κ) :
    (call.perform site).2.Filled taken := by
  obtain ⟨whenAdmitted, whenRefused⟩ := call.perform_eq site
  by_cases admitted : call.Admitted site
  · rw [whenAdmitted admitted]
    exact filled.outcome admitted
  · obtain ⟨fault, -, refused⟩ := whenRefused admitted
    rw [refused]
    exact filled

theorem performAll (calls : List (BuildCall κ)) :
    ∀ {site : Site κ}, site.Filled taken → (BuildCall.performAll calls site).Filled taken := by
  induction calls with
  | nil => exact fun filled => filled
  | cons call rest inductionHypothesis =>
      exact fun filled => inductionHypothesis (filled.perform call)

theorem sound (filled : site.Filled taken) : site.Sound taken where
  circuitBuilders builder := (filled.circuitBuilders builder).sound
  graphBuilders builder := (filled.graphBuilders builder).sound
  graphs graph member := by
    have built := filled.graphs graph member
    exact ⟨built.sound, built.linked.inputs.descending.acyclic⟩
  circuits circuit member := by
    have built := filled.circuits circuit member
    exact ⟨built.sound, built.linked.inputs.descending.acyclic⟩
  numbers := filled.numbers
  supply := filled.supply
  distinct := by
    have number : ∀ position (bound : position < site.circuits.length),
        site.circuits[position].id.number = taken + 1 + position := by
      intro position bound
      have numbers := List.getElem_of_eq filled.numbers (by rwa [List.length_map])
      rw [List.getElem_map, List.getElem_range'] at numbers
      omega
    intro left right leftBound rightBound
    rw [Circuit.beq_iff]
    refine ⟨fun same => ?_, fun same => by subst same; rfl⟩
    have numbers := congrArg CircuitId.number same
    rw [number left leftBound, number right rightBound] at numbers
    omega

end Filled

end Site

/-- Builders keep graphs well formed, and steps that fail change nothing.  After any calls, another
call is done exactly when it satisfies what is asked, and then gives what it should; else it reports
its first fault and leaves everything as it is.  Whatever has been built by then is well formed. -/
theorem building_sound (taken : Nat) (earlier : List (BuildCall κ)) (call : BuildCall κ) :
    let site := BuildCall.performAll earlier (.opened ⟨taken⟩)
    (call.Admitted site → call.perform site = (.ok (call.outcome site).1, (call.outcome site).2)) ∧
      (¬ call.Admitted site →
        ∃ fault, (call.faults site).head? = some fault ∧
          call.perform site = (.error fault, site)) ∧
      site.Sound taken := by
  intro site
  obtain ⟨whenAdmitted, whenRefused⟩ := call.perform_eq site
  exact ⟨whenAdmitted, whenRefused, (Site.Filled.performAll earlier (.opened taken)).sound⟩

/-- Refused calls in between take no number, and the category of a node is looked at before its
inputs. -/
example :
    let leaf : Node Kind := ⟨.leaf, ()⟩
    let weight : Node Kind := ⟨.weight, ()⟩
    let site := BuildCall.performAll
      [.addLayer 0 leaf [] [], .addLayer 0 weight [7] [], .finishCircuit 0 [3],
        .finishCircuit 0 [0], .finishCircuit 1 [0], .finishCircuit 0 [0, 0]] (.opened ⟨4⟩)
    site.circuits.map (·.id.number) = [5, 6] ∧
      (BuildCall.addLayer 0 weight [7] []).faults site =
        [.misplaced .layer .weight, .unknownReference .layer 7 1] := by
  decide

end Circuitry
