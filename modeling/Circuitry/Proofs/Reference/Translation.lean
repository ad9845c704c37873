import Circuitry.Proofs.Compiler.Moments
import Circuitry.Proofs.Graph.Schedule
import Circuitry.Proofs.NameMap.Last
import Circuitry.Reference.Assembly

/-!
# Programs that translate circuits

A program translates a circuit when its layers are the images of the circuit's layers in a given
order and every link has become a position in that order; parameter graphs are translated in the
same way within.  What the images of single nodes are is left open: whatever the rules promise about
the values that they give, a pipeline that succeeds makes a program that translates its circuit
with that meaning.
-/

namespace Circuitry.Reference

variable {κ : Type} [Vocabulary κ]

/-- What a value says about the node that it was made from. -/
abbrev Meaning (κ : Type) [Vocabulary κ] : Type :=
  (category : Category) → Node κ → Value category → Prop

/-- A position in an order leads to an index. -/
def RefersTo (order : List Nat) (position index : Nat) : Prop :=
  order[position]? = some index

/-- A compiled node is the image of a parameter node. -/
structure ParameterNode.Translates (meaning : Meaning κ) (order : List Nat)
    (entry : ParameterEntry κ) (node : ParameterNode) : Prop where
  op : meaning .parameter entry.node node.op
  inputs : List.Forall₂ (RefersTo order) node.inputs entry.inputs
  initializer : Option.Rel (meaning .initializer) entry.initializer node.initializer

/-- A compiled parameter is the image of a parameter graph. -/
structure Parameter.Translates (meaning : Meaning κ) (graph : ParameterGraph κ)
    (parameter : Parameter) : Prop where
  distinct : graph.topologicalOrder.Nodup
  nodes : List.Forall₂
    (fun index node => ∃ entry, graph.entries[index]? = some entry ∧
      node.Translates meaning graph.topologicalOrder entry)
    graph.topologicalOrder parameter.nodes
  output : RefersTo graph.topologicalOrder parameter.output graph.output

/-- A compiled layer is the image of a layer.  Under a name that the layer gives to several graphs
stands the image of the last of them. -/
structure Layer.Translates (meaning : Meaning κ) (order : List Nat) (entry : LayerEntry κ)
    (layer : Layer) : Prop where
  op : meaning .layer entry.node layer.op
  inputs : List.Forall₂ (RefersTo order) layer.inputs entry.inputs
  names : ∀ name, layer.parameters.contains name = true ↔ name ∈ entry.parameters.map (·.1)
  only : ∀ {name graph}, (name, graph) ∈ entry.parameters →
    (entry.parameters.map (·.1)).count name = 1 →
      ∃ parameter, layer.parameters.get? name = some parameter ∧
        parameter.Translates meaning graph
  last : ∀ name, Option.Rel (fun graph parameter => parameter.Translates meaning graph)
    (lastOf name entry.parameters) (layer.parameters.get? name)

/-- A program is the image of a circuit under the options of a pipeline. -/
structure Program.Translates (meaning : Meaning κ) (circuit : Circuit κ) (options : Options)
    (program : Program) : Prop where
  name : program.name = circuit.name
  semiring : program.semiring = options.semiring
  distinct : (circuit.order options.prune).Nodup
  layers : List.Forall₂
    (fun index layer => ∃ entry, circuit.layers[index]? = some entry ∧
      layer.Translates meaning (circuit.order options.prune) entry)
    (circuit.order options.prune) program.layers
  outputs : List.Forall₂ (RefersTo (circuit.order options.prune)) program.outputs circuit.outputs

theorem RefersTo.append {order : List Nat} {position index : Nat}
    (refers : RefersTo order position index) (later : List Nat) :
    RefersTo (order ++ later) position index := by
  obtain ⟨bound, -⟩ := List.getElem?_eq_some_iff.mp refers
  unfold RefersTo
  rw [List.getElem?_append_left bound]
  exact refers

omit [Vocabulary κ] in
theorem refersTo_of_position {link : Link} {placed : List Nat} {index found : Nat}
    (resolved : (position link placed index : Except (Failure κ target) Nat) = .ok found) :
    RefersTo placed found index := by
  unfold position at resolved
  split at resolved
  · next found located =>
      cases resolved
      obtain ⟨bound, equality, -⟩ := List.idxOf?_eq_some_iff.mp located
      exact List.getElem?_eq_some_iff.mpr ⟨bound, equality⟩
  · contradiction

omit [Vocabulary κ] in
theorem refersTo_of_positions {link : Link} {placed : List Nat} {indices : List Nat} :
    ∀ {found : List Nat},
      (positions link placed indices : Except (Failure κ target) (List Nat)) = .ok found →
        List.Forall₂ (RefersTo placed) found indices := by
  induction indices with
  | nil =>
      intro found resolved
      cases resolved
      exact .nil
  | cons index rest inductionHypothesis =>
      intro found resolved
      unfold positions at resolved
      split at resolved
      · contradiction
      · next first firstResolved =>
          split at resolved
          · contradiction
          · next others othersResolved =>
              cases resolved
              exact .cons (refersTo_of_position firstResolved) (inductionHypothesis othersResolved)

omit [Vocabulary κ] in
theorem refersTo_of_positions_append {link : Link} {placed indices found : List Nat}
    (resolved : (positions link placed indices : Except (Failure κ target) (List Nat)) = .ok found)
    (later : List Nat) : List.Forall₂ (RefersTo (placed ++ later)) found indices :=
  (refersTo_of_positions resolved).imp fun _ _ refers => refers.append later

theorem ok_of_mapError {ε ε' α : Type} {change : ε → ε'} {outcome : Except ε α} {value : α}
    (changed : outcome.mapError change = .ok value) : outcome = .ok value := by
  cases outcome with
  | error error => cases changed
  | ok value =>
      cases changed
      rfl

/-- Rules applied in safe sessions give values with a meaning, and the requests of the pipeline lead
from safe sessions to safe ones. -/
structure Serves (calls : Calls κ target) (safe : Session κ target → Prop)
    (meaning : Meaning κ) : Prop where
  apply : ∀ {category node session later value}, safe session →
    calls.apply category node.kind node true session = some (.ok value, later) →
      meaning category node value ∧ safe later
  update : ∀ {session} (change : State → State), safe session → safe (session.update change)
  report : ∀ {session} (events : List (Event κ)), safe session → safe (session.report events)

namespace Serves

variable {calls : Calls κ target} {safe : Session κ target → Prop} {meaning : Meaning κ}
  {session later : Session κ target}

theorem applyCounted (serves : Serves calls safe meaning) (started : safe session)
    {category : Category} {node : Node κ} {value : Value category}
    (ran : (applyCounted category node).runWith calls session = some (.ok value, later)) :
    meaning category node value ∧ safe later := by
  obtain ⟨passed, middle, applied, counted⟩ := Script.runWith_bind_ok ran
  rw [Script.runWith_compileNode] at applied
  obtain ⟨means, middleSafe⟩ := serves.apply started applied
  cases counted
  exact ⟨means, serves.update _ middleSafe⟩

theorem assembleInitializer (serves : Serves calls safe meaning) (started : safe session)
    {node : Option (Node κ)} {initializer : Option Initializer}
    (ran : (assembleInitializer node).runWith calls session = some (.ok initializer, later)) :
    Option.Rel (meaning .initializer) node initializer ∧ safe later := by
  cases node with
  | none =>
      cases ran
      exact ⟨.none, started⟩
  | some node =>
      obtain ⟨value, middle, applied, ended⟩ := Script.runWith_bind_ok ran
      obtain ⟨means, middleSafe⟩ := serves.applyCounted started applied
      cases ended
      exact ⟨.some means, middleSafe⟩

/-- The induction is on the schedule; what has been placed and what is still to come make up the
order in which positions are read. -/
theorem assembleNodes (serves : Serves calls safe meaning)
    {schedule : List (Nat × ParameterEntry κ)} :
    ∀ {placed : List Nat} {session later : Session κ target} {nodes : List ParameterNode},
      safe session →
      (assembleNodes placed schedule).runWith calls session = some (.ok nodes, later) →
        List.Forall₂
            (fun item node => node.Translates meaning (placed ++ schedule.map (·.1)) item.2)
            schedule nodes ∧
          safe later := by
  induction schedule with
  | nil =>
      intro placed session later nodes started ran
      cases ran
      exact ⟨.nil, started⟩
  | cons item rest inductionHypothesis =>
      obtain ⟨index, entry⟩ := item
      intro placed session later nodes started ran
      rw [Reference.assembleNodes] at ran
      obtain ⟨inputs, _, resolved, afterInputs⟩ := Script.runWith_bind_ok ran
      obtain ⟨inputsResolved, rfl⟩ := Script.runWith_ofExcept_ok resolved
      obtain ⟨initializer, _, initialized, afterInitializer⟩ := Script.runWith_bind_ok afterInputs
      obtain ⟨initializerMeans, initializedSafe⟩ := serves.assembleInitializer started initialized
      obtain ⟨op, _, applied, afterOp⟩ := Script.runWith_bind_ok afterInitializer
      obtain ⟨opMeans, appliedSafe⟩ := serves.applyCounted initializedSafe applied
      obtain ⟨others, _, assembled, ended⟩ := Script.runWith_bind_ok afterOp
      obtain ⟨othersTranslate, assembledSafe⟩ := inductionHypothesis appliedSafe assembled
      cases ended
      rw [List.append_assoc] at othersTranslate
      have refer := refersTo_of_positions_append inputsResolved (index :: rest.map (·.1))
      exact ⟨.cons ⟨opMeans, refer, initializerMeans⟩ othersTranslate, assembledSafe⟩

theorem assembleParameter (serves : Serves calls safe meaning) (started : safe session)
    {graph : ParameterGraph κ} {parameter : Parameter}
    (ran : (assembleParameter graph).runWith calls session = some (.ok parameter, later)) :
    parameter.Translates meaning graph ∧ safe later := by
  obtain ⟨nodes, _, assembled, afterNodes⟩ := Script.runWith_bind_ok ran
  obtain ⟨nodesTranslate, assembledSafe⟩ := serves.assembleNodes started assembled
  obtain ⟨output, _, resolved, ended⟩ := Script.runWith_bind_ok afterNodes
  obtain ⟨outputResolved, rfl⟩ := Script.runWith_ofExcept_ok resolved
  cases ended
  have images := forall₂_indexed (fun _ => ParameterGraph.getElem?_of_mem_schedule) nodesTranslate
  rw [List.nil_append, graph.map_fst_schedule] at images
  rw [graph.map_fst_schedule] at outputResolved
  exact ⟨⟨graph.nodup_topologicalOrder, images, refersTo_of_position outputResolved⟩, assembledSafe⟩

theorem assembleParameters (serves : Serves calls safe meaning)
    {pairs : List (String × ParameterGraph κ)} :
    ∀ {compiled assembled : NameMap Parameter} {session later : Session κ target},
      safe session →
      (assembleParameters compiled pairs).runWith calls session = some (.ok assembled, later) →
        (∃ images, assembled = compiled.insertAll images ∧
          List.Forall₂
            (fun pair image => image.1 = pair.1 ∧ image.2.Translates meaning pair.2) pairs images) ∧
          safe later := by
  induction pairs with
  | nil =>
      intro compiled assembled session later started ran
      cases ran
      exact ⟨⟨[], rfl, .nil⟩, started⟩
  | cons pair rest inductionHypothesis =>
      obtain ⟨name, graph⟩ := pair
      intro compiled assembled session later started ran
      rw [Reference.assembleParameters] at ran
      obtain ⟨parameter, _, first, afterFirst⟩ := Script.runWith_bind_ok ran
      obtain ⟨translates, firstSafe⟩ := serves.assembleParameter started first
      obtain ⟨⟨images, rfl, imagesTranslate⟩, laterSafe⟩ := inductionHypothesis firstSafe afterFirst
      exact ⟨⟨(name, parameter) :: images, rfl, .cons ⟨rfl, translates⟩ imagesTranslate⟩, laterSafe⟩

end Serves

theorem Layer.translates_of_images {meaning : Meaning κ} {order : List Nat} {entry : LayerEntry κ}
    {op : LayerOp} {inputs : List Nat} {images : List (String × Parameter)}
    (opMeans : meaning .layer entry.node op)
    (refer : List.Forall₂ (RefersTo order) inputs entry.inputs)
    (imagesTranslate : List.Forall₂
      (fun pair image => image.1 = pair.1 ∧ image.2.Translates meaning pair.2)
      entry.parameters images) :
    Layer.Translates meaning order entry ⟨op, inputs, NameMap.empty.insertAll images⟩ := by
  have last : ∀ name, Option.Rel (fun graph parameter => parameter.Translates meaning graph)
      (lastOf name entry.parameters) ((NameMap.ofList images).get? name) := by
    intro name
    rw [NameMap.get?_ofList]
    exact lastOf_related imagesTranslate name
  exact
    { op := opMeans
      inputs := refer
      names := fun name => NameMap.contains_iff_of_related (last name)
      only := fun member once => NameMap.get?_of_related_once (last _) member once
      last := last }

namespace Serves

variable {calls : Calls κ target} {safe : Session κ target → Prop} {meaning : Meaning κ}
  {session later : Session κ target}

theorem assembleLayers (serves : Serves calls safe meaning)
    {schedule : List (Nat × LayerEntry κ)} :
    ∀ {placed : List Nat} {session later : Session κ target} {layers : List Layer},
      safe session →
      (assembleLayers placed schedule).runWith calls session = some (.ok layers, later) →
        List.Forall₂
            (fun item layer => layer.Translates meaning (placed ++ schedule.map (·.1)) item.2)
            schedule layers ∧
          safe later := by
  induction schedule with
  | nil =>
      intro placed session later layers started ran
      cases ran
      exact ⟨.nil, started⟩
  | cons item rest inductionHypothesis =>
      obtain ⟨index, entry⟩ := item
      intro placed session later layers started ran
      rw [Reference.assembleLayers] at ran
      obtain ⟨inputs, _, resolved, afterInputs⟩ := Script.runWith_bind_ok ran
      obtain ⟨inputsResolved, rfl⟩ := Script.runWith_ofExcept_ok resolved
      obtain ⟨parameters, _, named, afterParameters⟩ := Script.runWith_bind_ok afterInputs
      obtain ⟨⟨images, rfl, imagesTranslate⟩, namedSafe⟩ := serves.assembleParameters started named
      obtain ⟨op, _, applied, afterOp⟩ := Script.runWith_bind_ok afterParameters
      obtain ⟨opMeans, appliedSafe⟩ := serves.applyCounted namedSafe applied
      obtain ⟨others, _, assembled, ended⟩ := Script.runWith_bind_ok afterOp
      obtain ⟨othersTranslate, assembledSafe⟩ := inductionHypothesis appliedSafe assembled
      cases ended
      rw [List.append_assoc] at othersTranslate
      have refer := refersTo_of_positions_append inputsResolved (index :: rest.map (·.1))
      exact ⟨.cons (Layer.translates_of_images opMeans refer imagesTranslate) othersTranslate,
        assembledSafe⟩

/-! ## Programs -/

theorem assembleProgram (serves : Serves calls safe meaning) (started : safe session)
    {circuit : Circuit κ} {options : Options} {program : Program}
    (ran : (assembleProgram circuit options).runWith calls session =
      some (.ok program, later)) :
    program.Translates meaning circuit options ∧ safe later := by
  obtain ⟨_, _, noted, afterNote⟩ := Script.runWith_bind_ok ran
  cases noted
  obtain ⟨layers, _, assembled, afterLayers⟩ := Script.runWith_bind_ok afterNote
  obtain ⟨layersTranslate, assembledSafe⟩ :=
    serves.assembleLayers (serves.report _ started) assembled
  obtain ⟨outputs, _, resolved, ended⟩ := Script.runWith_bind_ok afterLayers
  obtain ⟨outputsResolved, rfl⟩ := Script.runWith_ofExcept_ok resolved
  cases ended
  have images := forall₂_indexed (fun _ => Circuit.getElem?_of_mem_schedule) layersTranslate
  rw [List.nil_append, circuit.map_fst_schedule] at images
  rw [circuit.map_fst_schedule] at outputsResolved
  exact
    ⟨{ name := rfl
       semiring := rfl
       distinct := circuit.nodup_order options.prune
       layers := images
       outputs := refersTo_of_positions outputsResolved },
      assembledSafe⟩

/-- A pipeline that succeeds reads its options from the flags and gives a handle to a program that
translates the circuit. -/
theorem pipeline (serves : Serves calls safe meaning) (started : safe session)
    {circuit : Circuit κ} {handle : Handle}
    (ran : (pipeline circuit).runWith calls session = some (.ok handle, later)) :
    (∃ options, Options.ofFlags session.compiler.flags = .ok options ∧
        handle.content.Translates meaning circuit options) ∧
      safe later := by
  obtain ⟨_, _, counted, afterCount⟩ := Script.runWith_bind_ok ran
  cases counted
  obtain ⟨seen, _, viewed, afterView⟩ := Script.runWith_bind_ok afterCount
  cases viewed
  obtain ⟨options, _, read, afterOptions⟩ := Script.runWith_bind_ok afterView
  obtain ⟨optionsRead, rfl⟩ := Script.runWith_ofExcept_ok read
  obtain ⟨program, _, assembled, afterProgram⟩ := Script.runWith_bind_ok afterOptions
  obtain ⟨translates, assembledSafe⟩ :=
    serves.assembleProgram (serves.update _ started) assembled
  cases afterProgram
  exact ⟨⟨options, ok_of_mapError optionsRead, translates⟩, serves.update _ assembledSafe⟩

end Serves

end Circuitry.Reference
