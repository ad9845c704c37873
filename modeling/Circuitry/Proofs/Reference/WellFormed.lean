import Circuitry.Proofs.NameMap.Entries
import Circuitry.Proofs.Reference.Faithful
import Circuitry.Proofs.Reference.Renumbering
import Circuitry.Proofs.Reference.Visits

/-!
# Well-formed programs

What the reference pipeline makes of a built circuit refers back: a position is that of an earlier
layer or node, and the output of a parameter is its last node.  A run that fails has met a wrong
flag or a rule that failed, never a link that could not be resolved.  Nothing is asked of the rules,
which may call the compiler back.
-/

namespace Circuitry.Reference

/-- The inputs of each node come before it, and the output is the last node. -/
structure Parameter.WellFormed (parameter : Parameter) : Prop where
  inputs : ∀ (position : Nat) (node : ParameterNode), parameter.nodes[position]? = some node →
    ∀ input ∈ node.inputs, input < position
  output : parameter.output + 1 = parameter.nodes.length

/-- The inputs of each layer come before it, outputs are layers, and all parameters are
well-formed. -/
structure Program.WellFormed (program : Program) : Prop where
  inputs : ∀ (position : Nat) (layer : Layer), program.layers[position]? = some layer →
    ∀ input ∈ layer.inputs, input < position
  outputs : ∀ output ∈ program.outputs, output < program.layers.length
  parameters : ∀ layer ∈ program.layers, ∀ entry ∈ layer.parameters.entries, entry.2.WellFormed

/-- Each layer is one that the outputs depend on, and the last one is an output. -/
structure Program.Trimmed (program : Program) : Prop where
  reachable : ∀ position < program.layers.length,
    program.wiring.Reachable program.outputs position
  last : ∃ last ∈ program.outputs, last + 1 = program.layers.length

variable {κ : Type} [Vocabulary κ] {meaning : Meaning κ}

/-- The output of a graph is its only root, so its image is the node that stands last. -/
theorem Parameter.Translates.wellFormed {graph : ParameterGraph κ} {parameter : Parameter}
    (linked : graph.Linked) (translates : parameter.Translates meaning graph) :
    parameter.WellFormed where
  inputs := by
    intro position node found
    have bound : position < parameter.nodes.length := (List.getElem?_eq_some_iff.mp found).1
    rw [← Parameter.inputs_wiring found]
    exact translates.renumbers.descending translates.distinct linked.topologicalOrder.inputsFirst
      position bound
  output := by
    obtain ⟨last, listed, final⟩ := Renumbers.last_mem linked.topologicalOrder
      (.cons translates.output .nil) (List.cons_ne_nil graph.output [])
    rw [List.mem_singleton.mp listed, translates.nodes.length_eq] at final
    exact final

theorem Layer.Translates.graph_of_mem {order : List Nat} {entry : LayerEntry κ} {layer : Layer}
    (translates : layer.Translates meaning order entry) {name : String} {parameter : Parameter}
    (member : (name, parameter) ∈ layer.parameters.entries) :
    ∃ graph, (name, graph) ∈ entry.parameters ∧ parameter.Translates meaning graph := by
  have related := translates.last name
  rw [(layer.parameters.get?_eq_some_iff name parameter).mpr member] at related
  generalize last : lastOf name entry.parameters = graph at related
  cases related with
  | some parameterTranslates => exact ⟨_, mem_of_lastOf last, parameterTranslates⟩

namespace Program.Translates

variable {circuit : Circuit κ} {options : Options} {program : Program}

theorem wellFormed (linked : circuit.Linked)
    (translates : program.Translates meaning circuit options) : program.WellFormed where
  inputs := by
    intro position layer found
    have bound : position < program.layers.length := (List.getElem?_eq_some_iff.mp found).1
    rw [← Program.inputs_wiring found]
    exact translates.renumbers.descending translates.distinct
      (linked.inputsFirst_order options.prune) position bound
  outputs := by
    intro output member
    obtain ⟨index, -, refers⟩ := image_of_mem translates.outputs member
    rw [← translates.layers.length_eq]
    exact refers.lt
  parameters := by
    intro layer member
    obtain ⟨index, -, entry, found, layerTranslates⟩ := item_of_mem translates.layers member
    rintro ⟨name, parameter⟩ named
    obtain ⟨graph, inEntry, parameterTranslates⟩ := layerTranslates.graph_of_mem named
    have entryLinked := linked.parameters entry (Array.mem_of_getElem? found)
    exact parameterTranslates.wellFormed (entryLinked (name, graph) inEntry)

theorem trimmed (linked : circuit.Linked)
    (translates : program.Translates meaning circuit options) (pruned : options.prune = true) :
    program.Trimmed := by
  have renumbers := translates.renumbers
  have outputs := translates.outputs
  have length := translates.layers.length_eq
  rw [pruned] at renumbers outputs length
  refine ⟨fun position bound => ?_, ?_⟩
  · exact renumbers.reachable_of_lt linked.topologicalOrder outputs (length ▸ bound)
  · rw [← length]
    exact Renumbers.last_mem linked.topologicalOrder outputs linked.present

end Program.Translates

/-- Whatever the rules are, they give some value. -/
theorem serves_anything (calls : Calls κ target) :
    Serves calls (fun _ => True) (fun _ _ _ => True) where
  apply _ _ := ⟨trivial, trivial⟩
  update _ _ := trivial
  report _ _ := trivial

/-- The error of a failed run is that of a wrong flag, or of a visit with which the run ends. -/
def Attributed (depth : Nat) (circuit : Circuit κ) (session : Session κ target)
    (error : Failure κ target) (ended : Session κ target) : Prop :=
  (∃ fault, Options.ofFlags session.compiler.flags = .error fault ∧ error = .flag fault) ∨
    ∃ options, Options.ofFlags session.compiler.flags = .ok options ∧
      ∃ visit ∈ circuit.visits options.prune,
        Moment.EndsWith (⟨depth, pipeline circuit, session⟩ : Moment backend) visit error ended

theorem attributed_of_failed {circuit : Circuit κ} (linked : circuit.Linked) {depth : Nat}
    {session ended : Session κ target} {error : Failure κ target}
    (failed : session.perform backend depth (pipeline circuit) = some (.error error, ended)) :
    Attributed depth circuit session error ended := by
  cases read : Options.ofFlags session.compiler.flags with
  | error fault =>
      have ran := (runWith_pipeline_of_fault (.within backend depth) circuit read).symm.trans failed
      cases ran
      exact Or.inl ⟨fault, read, rfl⟩
  | ok options =>
      have ran := (runWith_pipeline_of_options (.within backend depth) circuit read).symm.trans
        failed
      obtain ⟨visit, member, before, next, reached, applied, hands⟩ :=
        (makes_assembleHandle linked options).endsWith ran
      have reachedFromStart := (reaches_assembleHandle depth circuit read).trans reached
      exact Or.inr ⟨options, read, visit, member, before, next, reachedFromStart, applied, hands⟩

/-- The pipeline makes well-formed programs, and has no error of its own.  For a circuit from a
builder, with any rules: no more layers are compiled than the circuit has; a run that fails has met
a wrong flag, or it ends with a visit whose rule failed; and the program of a run that succeeds is
well-formed, and trimmed if layers may be left out. -/
theorem pipeline_wellFormed {circuit : Circuit κ} (built : circuit.Built) :
    (∀ prune, (circuit.schedule prune).length = (circuit.order prune).length ∧
        (circuit.order prune).length ≤ circuit.layers.size) ∧
      ∀ (depth : Nat) (session ended : Session κ target),
        (∀ error, session.perform backend depth (pipeline circuit) = some (.error error, ended) →
            Attributed depth circuit session error ended) ∧
          ∀ handle : Handle,
            session.perform backend depth (pipeline circuit) = some (.ok handle, ended) →
              ∃ options, Options.ofFlags session.compiler.flags = .ok options ∧
                handle.content.WellFormed ∧
                (options.prune = true → handle.content.Trimmed) := by
  have linked := built.linked
  refine ⟨fun prune => ?_, fun depth session ended => ⟨fun error => ?_, fun handle ran => ?_⟩⟩
  · have length : (circuit.schedule prune).length = (circuit.order prune).length := by
      rw [← circuit.map_fst_schedule prune, List.length_map]
    exact ⟨length, length ▸ circuit.length_schedule_le prune⟩
  · exact attributed_of_failed linked
  · obtain ⟨⟨options, read, translates⟩, -⟩ :=
      (serves_anything (.within backend depth)).pipeline trivial ran
    exact ⟨options, read, translates.wellFormed linked, translates.trimmed linked⟩

namespace Sharing

theorem built_weights : weights.Built :=
  ⟨⟨weights.entries⟩, weights.output, .pushAll weights.entries.toList .empty rfl, rfl⟩

theorem built_circuit : circuit.Built := by
  refine ⟨⟨circuit.name, circuit.layers⟩, {}, ⟨1⟩, circuit.outputs, ?_, rfl⟩
  exact .pushAll circuit.layers.toList (.named circuit.name)
    (by simp [circuit, built_weights]) rfl

/-- A session of a compiler with rules for layers only. -/
def halfRuled : Session Kind target where
  compiler := ⟨({} : State), .ofResults results fun category =>
    if category = .layer then kinds .layer else [], .empty, .empty⟩
  events := #[]
  supply := {}
  invocations := []

end Sharing

/-- With all rules the program is trimmed; without those for initializers the run ends with one of
its visits. -/
theorem pipeline_wellFormed_sharing :
    Sharing.circuit.Built ∧
      (∃ handle ended,
        Sharing.session.perform backend 1 (pipeline Sharing.circuit) = some (.ok handle, ended) ∧
          handle.content.WellFormed ∧ handle.content.Trimmed) ∧
      ∃ error ended, ∃ visit ∈ Sharing.circuit.visits true,
        Sharing.halfRuled.perform backend 1 (pipeline Sharing.circuit) =
            some (.error error, ended) ∧
          Moment.EndsWith (⟨1, pipeline Sharing.circuit, Sharing.halfRuled⟩ : Moment backend) visit
            error ended := by
  obtain ⟨-, runs⟩ := pipeline_wellFormed (κ := Kind) Sharing.built_circuit
  refine ⟨Sharing.built_circuit, ?_, ?_⟩
  · obtain ⟨handle, ended, performed⟩ : ∃ handle ended,
        Sharing.session.perform backend 1 (pipeline Sharing.circuit) = some (.ok handle, ended) :=
      ⟨_, _, rfl⟩
    obtain ⟨options, read, wellFormed, trimmed⟩ := (runs 1 Sharing.session ended).2 handle performed
    cases read
    exact ⟨handle, ended, performed, wellFormed, trimmed rfl⟩
  · obtain ⟨error, ended, performed⟩ : ∃ error ended,
        Sharing.halfRuled.perform backend 1 (pipeline Sharing.circuit) =
          some (.error error, ended) := ⟨_, _, rfl⟩
    rcases (runs 1 Sharing.halfRuled ended).1 error performed with
      ⟨fault, misread, -⟩ | ⟨options, read, visit, member, ends⟩
    · cases misread
    · cases read
      exact ⟨error, ended, visit, member, performed, ends⟩

end Circuitry.Reference
