import Circuitry.Proofs.Compiler.Visits
import Circuitry.Proofs.Graph.Order
import Circuitry.Reference.Assembly

/-!
# The visits of the reference pipeline

In the schedules of a built circuit the links of each item lead to items that have been placed, so
every link is resolved.  Once the pipeline has read its options it therefore makes the visits of the
circuit, counts each of them that succeeds, and has no error of its own.
-/

namespace Circuitry.Reference

variable {κ : Type} [Vocabulary κ]

omit [Vocabulary κ] in
theorem position_of_mem {link : Link} {placed : List Nat} {index : Nat} (known : index ∈ placed) :
    ∃ found, (position link placed index : Except (Failure κ target) Nat) = .ok found := by
  unfold position
  cases located : placed.idxOf? index with
  | none => exact absurd known (List.idxOf?_eq_none_iff.mp located)
  | some found => exact ⟨found, rfl⟩

omit [Vocabulary κ] in
theorem positions_of_mem {link : Link} {placed indices : List Nat}
    (known : ∀ index ∈ indices, index ∈ placed) :
    ∃ found, (positions link placed indices : Except (Failure κ target) (List Nat)) =
      .ok found := by
  induction indices with
  | nil => exact ⟨[], rfl⟩
  | cons index rest inductionHypothesis =>
      obtain ⟨knownIndex, knownRest⟩ := List.forall_mem_cons.mp known
      obtain ⟨first, firstResolved⟩ :
          ∃ found, (position link placed index : Except (Failure κ target) Nat) = .ok found :=
        position_of_mem knownIndex
      obtain ⟨others, othersResolved⟩ := inductionHypothesis knownRest
      unfold positions
      rw [firstResolved, othersResolved]
      exact ⟨first :: others, rfl⟩

/-- The links of each scheduled item lead to what was placed before and to earlier items. -/
def LinksPlaced {α : Type} (links : α → List Nat) (placed : List Nat)
    (schedule : List (Nat × α)) : Prop :=
  ∀ before item after, schedule = before ++ item :: after →
    ∀ link ∈ links item.2, link ∈ placed ++ before.map (·.1)

section LinksPlaced

variable {α : Type} {links : α → List Nat} {placed : List Nat} {item : Nat × α}
  {rest : List (Nat × α)}

theorem LinksPlaced.head (all : LinksPlaced links placed (item :: rest)) :
    ∀ link ∈ links item.2, link ∈ placed := by
  simpa using all [] item rest rfl

theorem LinksPlaced.tail (all : LinksPlaced links placed (item :: rest)) :
    LinksPlaced links (placed ++ [item.1]) rest := by
  intro before next after split link member
  rw [List.append_assoc]
  exact all (item :: before) next after (split ▸ rfl) link member

theorem linksPlaced_of_inputsFirst (wiring : Wiring) {schedule : List (Nat × α)}
    (same : ∀ item ∈ schedule, wiring.inputs item.1 = links item.2)
    (inputsFirst : wiring.InputsFirst (schedule.map (·.1))) : LinksPlaced links [] schedule := by
  intro before item after split link member
  rw [← same item (split ▸ List.mem_append_right before List.mem_cons_self)] at member
  rw [List.nil_append]
  exact inputsFirst _ item.1 (after.map (·.1)) (by rw [split]; simp) link member

end LinksPlaced

theorem linksPlaced_parameterGraph {graph : ParameterGraph κ} (linked : graph.Linked) :
    LinksPlaced (fun entry : ParameterEntry κ => entry.inputs) [] graph.schedule := by
  refine linksPlaced_of_inputsFirst graph.wiring ?_ ?_
  · intro item member
    exact ParameterGraph.inputs_wiring (ParameterGraph.getElem?_of_mem_schedule member)
  · rw [graph.map_fst_schedule]
    exact linked.topologicalOrder.inputsFirst

theorem linksPlaced_circuit {circuit : Circuit κ} (linked : circuit.Linked) (prune : Bool) :
    LinksPlaced (fun layer : LayerEntry κ => layer.inputs) [] (circuit.schedule prune) := by
  refine linksPlaced_of_inputsFirst circuit.wiring ?_ ?_
  · intro item member
    exact Circuit.inputs_wiring (Circuit.getElem?_of_mem_schedule member)
  · rw [circuit.map_fst_schedule]
    exact linked.inputsFirst_order prune

section Counts

variable {α β : Type}

/-- The script makes given visits, hands on the first error, and counts each visit that succeeds
right after it.  In between it does nothing but report. -/
inductive Counts : Script κ target α → List (Visit κ) → Prop
  | done (value : α) : Counts (.done (.ok value)) []
  | counted {visit : Visit κ} {visits : List (Visit κ)}
      {next : Except (Failure κ target) (target.Value visit.category) → Script κ target α}
      {rest : target.Value visit.category → Script κ target α} :
      (∀ error, next (.error error) = .done (.error error)) →
      (∀ value, next (.ok value) = .updating (State.countRule visit.category) (rest value)) →
      (∀ value, Counts (rest value) visits) →
      Counts (.applying visit.category visit.node.kind visit.node true next) (visit :: visits)
  | noting {message : String} {details : List (String × Detail)} {next : Script κ target α}
      {visits : List (Visit κ)} :
      Counts next visits → Counts (.noting message details next) visits

theorem Counts.bind {first : Script κ target α} {next : α → Script κ target β}
    {visits later : List (Visit κ)} (counts : Counts first visits)
    (continues : ∀ value, Counts (next value) later) :
    Counts (first >>= next) (visits ++ later) := by
  rw [Script.bind_eq]
  induction counts with
  | done value => exact continues value
  | counted hands follows _ inductionHypothesis =>
      refine .counted (fun error => ?_) (fun value => ?_) inductionHypothesis
      · rw [hands error]
        rfl
      · rw [follows value]
        rfl
  | noting _ inductionHypothesis => exact .noting inductionHypothesis

/-- A step without visits leaves the visits to what follows. -/
theorem Counts.bind_of_none {first : Script κ target α} {next : α → Script κ target β}
    {visits : List (Visit κ)} (counts : Counts first [])
    (continues : ∀ value, Counts (next value) visits) : Counts (first >>= next) visits :=
  counts.bind continues

theorem Counts.ofExcept {outcome : Except (Failure κ target) α} {value : α}
    (succeeds : outcome = .ok value) : Counts (Script.ofExcept outcome : Script κ target α) [] := by
  rw [succeeds]
  exact .done value

theorem Counts.makes {script : Script κ target α} {visits : List (Visit κ)}
    (counts : Counts script visits) : script.Makes visits := by
  induction counts with
  | done value => exact .done value
  | counted hands follows _ inductionHypothesis =>
      refine .applying hands fun value => ?_
      rw [follows value]
      exact .updating (inductionHypothesis value)
  | noting _ inductionHypothesis => exact .noting inductionHypothesis

end Counts

theorem counts_applyCounted (category : Category) (node : Node κ) :
    Counts (applyCounted category node) [⟨category, node⟩] :=
  @Counts.counted κ _ _ ⟨category, node⟩ [] _ _ (fun _ => rfl) (fun _ => rfl)
    fun value => .done value

theorem counts_assembleInitializer (node : Option (Node κ)) :
    Counts (assembleInitializer node)
      (node.toList.map fun node => (⟨.initializer, node⟩ : Visit κ)) := by
  cases node with
  | none => exact .done none
  | some node => exact (counts_applyCounted .initializer node).bind fun value => .done (some value)

theorem counts_assembleNodes {schedule : List (Nat × ParameterEntry κ)} :
    ∀ {placed : List Nat}, LinksPlaced (·.inputs) placed schedule →
      Counts (assembleNodes placed schedule) (schedule.flatMap fun item => item.2.visits) := by
  induction schedule with
  | nil =>
      intro placed _
      exact .done []
  | cons item rest inductionHypothesis =>
      obtain ⟨index, entry⟩ := item
      intro placed links
      obtain ⟨inputs, resolved⟩ :
          ∃ found, (positions .parameterInput placed entry.inputs :
            Except (Failure κ target) (List Nat)) = .ok found :=
        positions_of_mem links.head
      rw [List.flatMap_cons, ParameterEntry.visits, List.append_assoc]
      rw [assembleNodes]
      refine (Counts.ofExcept resolved).bind_of_none fun inputs => ?_
      refine (counts_assembleInitializer entry.initializer).bind fun initializer => ?_
      refine (counts_applyCounted .parameter entry.node).bind fun op => ?_
      rw [← List.append_nil (rest.flatMap _)]
      exact (inductionHypothesis links.tail).bind fun later => .done _

theorem counts_assembleParameter {graph : ParameterGraph κ} (linked : graph.Linked) :
    Counts (assembleParameter graph) graph.visits := by
  have listed : graph.output ∈ graph.schedule.map (·.1) := by
    rw [graph.map_fst_schedule]
    exact (linked.topologicalOrder.mem_iff _).mpr (.root List.mem_cons_self)
  obtain ⟨output, resolved⟩ :
      ∃ found, (position .parameterOutput (graph.schedule.map (·.1)) graph.output :
        Except (Failure κ target) Nat) = .ok found :=
    position_of_mem listed
  rw [← List.append_nil graph.visits]
  refine (counts_assembleNodes (linksPlaced_parameterGraph linked)).bind fun nodes => ?_
  exact (Counts.ofExcept resolved).bind_of_none fun output => .done _

theorem counts_assembleParameters {pairs : List (String × ParameterGraph κ)} :
    ∀ {compiled : NameMap Parameter}, (∀ pair ∈ pairs, pair.2.Linked) →
      Counts (assembleParameters compiled pairs) (pairs.flatMap fun pair => pair.2.visits) := by
  induction pairs with
  | nil =>
      intro compiled _
      exact .done compiled
  | cons pair rest inductionHypothesis =>
      intro compiled linked
      obtain ⟨pairLinked, restLinked⟩ := List.forall_mem_cons.mp linked
      exact (counts_assembleParameter pairLinked).bind fun _ => inductionHypothesis restLinked

theorem counts_assembleLayers {schedule : List (Nat × LayerEntry κ)} :
    ∀ {placed : List Nat}, LinksPlaced (·.inputs) placed schedule →
      (∀ item ∈ schedule, ∀ pair ∈ item.2.parameters, pair.2.Linked) →
        Counts (assembleLayers placed schedule) (schedule.flatMap fun item => item.2.visits) := by
  induction schedule with
  | nil =>
      intro placed _ _
      exact .done []
  | cons item rest inductionHypothesis =>
      obtain ⟨index, entry⟩ := item
      intro placed links linked
      obtain ⟨entryLinked, restLinked⟩ := List.forall_mem_cons.mp linked
      obtain ⟨inputs, resolved⟩ :
          ∃ found, (positions .layerInput placed entry.inputs :
            Except (Failure κ target) (List Nat)) = .ok found :=
        positions_of_mem links.head
      rw [List.flatMap_cons, LayerEntry.visits, List.append_assoc]
      rw [assembleLayers]
      refine (Counts.ofExcept resolved).bind_of_none fun inputs => ?_
      refine (counts_assembleParameters entryLinked).bind fun parameters => ?_
      refine (counts_applyCounted .layer entry.node).bind fun op => ?_
      rw [← List.append_nil (rest.flatMap _)]
      exact (inductionHypothesis links.tail restLinked).bind fun later => .done _

theorem counts_assembleProgram {circuit : Circuit κ} (linked : circuit.Linked)
    (options : Options) :
    Counts (assembleProgram circuit options) (circuit.visits options.prune) := by
  have graphsLinked : ∀ item ∈ circuit.schedule options.prune, ∀ pair ∈ item.2.parameters,
      pair.2.Linked := fun item member =>
    linked.parameters item.2
      (Array.mem_of_getElem? (Circuit.getElem?_of_mem_schedule member))
  have listed : ∀ output ∈ circuit.outputs,
      output ∈ (circuit.schedule options.prune).map (·.1) := fun output member => by
    rw [circuit.map_fst_schedule]
    exact linked.mem_order_of_output options.prune member
  obtain ⟨outputs, resolved⟩ :
      ∃ found, (positions .output ((circuit.schedule options.prune).map (·.1)) circuit.outputs :
        Except (Failure κ target) (List Nat)) = .ok found :=
    positions_of_mem listed
  rw [← List.append_nil (circuit.visits options.prune)]
  refine Counts.bind_of_none (.noting (.done ())) fun _ => ?_
  refine (counts_assembleLayers (linksPlaced_circuit linked options.prune) graphsLinked).bind
    fun layers => ?_
  exact (Counts.ofExcept resolved).bind_of_none fun outputs => .done _

theorem makes_assembleProgram {circuit : Circuit κ} (linked : circuit.Linked)
    (options : Options) :
    (assembleProgram circuit options).Makes (circuit.visits options.prune) :=
  (counts_assembleProgram linked options).makes

/-- What the pipeline does with its options: assembles the program and gives it a new handle. -/
def assembleHandle (circuit : Circuit κ) (options : Options) : Script κ target Handle := do
  let program ← assembleProgram circuit options
  changeState State.takeNumber
  let state ← currentState
  return ⟨state.origin, state.lastNumber, program⟩

theorem makes_assembleHandle {circuit : Circuit κ} (linked : circuit.Linked) (options : Options) :
    (assembleHandle circuit options).Makes (circuit.visits options.prune) := by
  rw [← List.append_nil (circuit.visits options.prune)]
  exact (makes_assembleProgram linked options).bind fun program =>
    .updating (.viewing fun seen => .done _)

/-- What follows the reading of the options: the assembly of the handle, or the error of a flag. -/
def assembleRead (circuit : Circuit κ) (read : Except FlagError Options) :
    Script κ target Handle :=
  (Script.ofExcept (read.mapError .flag)).bind (assembleHandle circuit)

theorem pipeline_eq (circuit : Circuit κ) :
    pipeline circuit =
      .updating State.countRun
        (.viewing fun seen => assembleRead circuit (Options.ofFlags seen.flags)) := rfl

theorem runWith_pipeline (calls : Calls κ target) (circuit : Circuit κ)
    (session : Session κ target) :
    (pipeline circuit).runWith calls session =
      (assembleRead circuit (Options.ofFlags session.compiler.flags)).runWith calls
        (session.update State.countRun) := rfl

theorem runWith_pipeline_of_fault (calls : Calls κ target) (circuit : Circuit κ)
    {session : Session κ target} {fault : FlagError}
    (read : Options.ofFlags session.compiler.flags = .error fault) :
    (pipeline circuit).runWith calls session =
      some (.error (.flag fault), session.update State.countRun) := by
  rw [runWith_pipeline, read]
  rfl

theorem runWith_pipeline_of_options (calls : Calls κ target) (circuit : Circuit κ)
    {session : Session κ target} {options : Options}
    (read : Options.ofFlags session.compiler.flags = .ok options) :
    (pipeline circuit).runWith calls session =
      (assembleHandle circuit options).runWith calls (session.update State.countRun) := by
  rw [runWith_pipeline, read]
  rfl

theorem pipeline_preserves {calls : Calls κ target} {safe : Session κ target → Prop}
    (preserve : calls.Preserve safe) {circuit : Circuit κ} (linked : circuit.Linked)
    {session ended : Session κ target} {outcome : Except (Failure κ target) Handle}
    (started : safe session)
    (ran : (pipeline circuit).runWith calls session = some (outcome, ended)) : safe ended := by
  have counted : safe (session.update State.countRun) := preserve.update _ started
  cases read : Options.ofFlags session.compiler.flags with
  | error fault =>
      rw [runWith_pipeline_of_fault calls circuit read] at ran
      cases ran
      exact counted
  | ok options =>
      rw [runWith_pipeline_of_options calls circuit read] at ran
      exact (makes_assembleHandle linked options).preserves preserve counted ran

/-- The run of a pipeline comes to the assembly of the handle. -/
theorem reaches_assembleHandle (depth : Nat) (circuit : Circuit κ) {session : Session κ target}
    {options : Options} (read : Options.ofFlags session.compiler.flags = .ok options) :
    Moment.Reaches (⟨depth, pipeline circuit, session⟩ : Moment (backend : Backend κ))
      ⟨depth, assembleHandle circuit options, session.update State.countRun⟩ := by
  rw [pipeline_eq]
  refine .head (.request rfl) (.single (.request ?_))
  change some (assembleRead circuit (Options.ofFlags session.compiler.flags), _) = _
  rw [read]
  rfl

end Circuitry.Reference
