import Circuitry.Proofs.Reference.WellFormed
import Mathlib.Logic.Relator

/-!
# Pruning

Leaving out the layers that no output depends on changes nothing else about a program.  With rules
whose results depend on the node alone, the pruned program stands inside the whole one: its layers
are those that the outputs depend on, under other positions.
-/

namespace Circuitry.Reference

variable {κ : Type} [Vocabulary κ] {meaning : Meaning κ}

section Unique

variable {α β : Type} {relation : α → β → Prop}

theorem rightUnique_optionRel (unique : Relator.RightUnique relation) :
    Relator.RightUnique (Option.Rel relation) := by
  intro value first second firstRelated secondRelated
  cases firstRelated with
  | none =>
      cases secondRelated
      rfl
  | some firstHolds =>
      cases secondRelated with
      | some secondHolds => exact congrArg some (unique firstHolds secondHolds)

theorem leftUnique_refersTo {order : List Nat} (nodup : order.Nodup) :
    Relator.LeftUnique (RefersTo order) :=
  fun _ _ _ refers otherRefers => refers.position_unique otherRefers nodup

variable (functional : ∀ category, Relator.RightUnique (meaning category))
include functional

theorem ParameterNode.Translates.unique {order : List Nat} (nodup : order.Nodup)
    {entry : ParameterEntry κ} {first second : ParameterNode}
    (firstTranslates : first.Translates meaning order entry)
    (secondTranslates : second.Translates meaning order entry) : first = second := by
  have op : first.op = second.op := functional _ firstTranslates.op secondTranslates.op
  have inputs : first.inputs = second.inputs :=
    List.left_unique_forall₂' (leftUnique_refersTo nodup) firstTranslates.inputs
      secondTranslates.inputs
  have initializer : first.initializer = second.initializer :=
    rightUnique_optionRel (functional _) firstTranslates.initializer secondTranslates.initializer
  cases first
  cases second
  cases op
  cases inputs
  cases initializer
  rfl

theorem Parameter.Translates.unique {graph : ParameterGraph κ} {first second : Parameter}
    (firstTranslates : first.Translates meaning graph)
    (secondTranslates : second.Translates meaning graph) : first = second := by
  have nodes : first.nodes = second.nodes := by
    refine List.right_unique_forall₂' ?_ firstTranslates.nodes secondTranslates.nodes
    rintro index node other ⟨entry, found, translates⟩ ⟨otherEntry, otherFound, otherTranslates⟩
    cases found.symm.trans otherFound
    exact translates.unique functional firstTranslates.distinct otherTranslates
  have output : first.output = second.output :=
    firstTranslates.output.position_unique secondTranslates.output firstTranslates.distinct
  cases first
  cases second
  cases nodes
  cases output
  rfl

theorem Layer.Translates.parameters_unique {order otherOrder : List Nat} {entry : LayerEntry κ}
    {first second : Layer} (firstTranslates : first.Translates meaning order entry)
    (secondTranslates : second.Translates meaning otherOrder entry) :
    first.parameters = second.parameters := by
  refine NameMap.ext_get? fun name => ?_
  refine rightUnique_optionRel ?_ (firstTranslates.last name) (secondTranslates.last name)
  intro graph parameter other translates otherTranslates
  exact translates.unique functional otherTranslates

end Unique

def indexAt (order : List Nat) (position : Nat) : Nat :=
  order[position]?.getD 0

theorem RefersTo.indexAt {order : List Nat} {position index : Nat}
    (refers : RefersTo order position index) : indexAt order position = index := by
  unfold Reference.indexAt
  rw [refers]
  rfl

theorem eq_map_of_refersTo {order positions indices : List Nat}
    (related : List.Forall₂ (RefersTo order) positions indices) :
    indices = positions.map (indexAt order) := by
  induction related with
  | nil => rfl
  | cons first _ inductionHypothesis =>
      rw [List.map_cons, first.indexAt, ← inductionHypothesis]

/-- In the list of all indices each one stands at its own position. -/
theorem refersTo_range_iff {size position index : Nat} :
    RefersTo (List.range size) position index ↔ index < size ∧ position = index := by
  unfold RefersTo
  rw [List.getElem?_eq_some_iff]
  simp only [List.length_range, List.getElem_range]
  constructor
  · rintro ⟨bound, rfl⟩
    exact ⟨bound, rfl⟩
  · rintro ⟨bound, rfl⟩
    exact ⟨bound, rfl⟩

theorem eq_of_refersTo_range {size : Nat} {positions indices : List Nat}
    (related : List.Forall₂ (RefersTo (List.range size)) positions indices) :
    positions = indices := by
  have same : List.Forall₂ (· = ·) positions indices :=
    related.imp fun _ _ refers => (refersTo_range_iff.mp refers).2
  rwa [List.forall₂_eq_eq_eq] at same

theorem exists_indexAt_iff {order : List Nat} {index : Nat} :
    (∃ position < order.length, indexAt order position = index) ↔ index ∈ order := by
  constructor
  · rintro ⟨position, bound, rfl⟩
    obtain ⟨index, refers⟩ := exists_refersTo bound
    rw [refers.indexAt]
    exact refers.mem
  · intro member
    obtain ⟨position, found⟩ := List.getElem?_of_mem member
    have refers : RefersTo order position index := found
    exact ⟨position, refers.lt, refers.indexAt⟩

theorem indexAt_injective {order : List Nat} (nodup : order.Nodup) {position other : Nat}
    (bound : position < order.length) (otherBound : other < order.length)
    (same : indexAt order position = indexAt order other) : position = other := by
  obtain ⟨index, refers⟩ := exists_refersTo bound
  obtain ⟨otherIndex, otherRefers⟩ := exists_refersTo otherBound
  rw [refers.indexAt, otherRefers.indexAt] at same
  exact refers.position_unique (same ▸ otherRefers) nodup

/-- A program stands inside another one, with its layers and outputs at other positions; the layers
there are those that the outputs depend on. -/
structure Program.Embeds (place : Nat → Nat) (inner outer : Program) : Prop where
  name : inner.name = outer.name
  semiring : inner.semiring = outer.semiring
  layers : ∀ (position : Nat) (layer : Layer), inner.layers[position]? = some layer →
    ∃ original, outer.layers[place position]? = some original ∧ layer.op = original.op ∧
      layer.parameters = original.parameters ∧ layer.inputs.map place = original.inputs
  injective : ∀ position < inner.layers.length, ∀ other < inner.layers.length,
    place position = place other → position = other
  outputs : inner.outputs.map place = outer.outputs
  image : ∀ position, (∃ source < inner.layers.length, place source = position) ↔
    outer.wiring.Reachable outer.outputs position

section Whole

variable {circuit : Circuit κ} {semiring : Semiring} {program : Program}

/-- In a program that leaves nothing out the positions of layers are their indices. -/
theorem Program.Translates.image_of_layer
    (translates : program.Translates meaning circuit ⟨semiring, false⟩) {index : Nat}
    {entry : LayerEntry κ} (found : circuit.layers[index]? = some entry) :
    ∃ layer, program.layers[index]? = some layer ∧
      layer.Translates meaning (List.range circuit.layers.size) entry := by
  have bound : index < circuit.layers.size := (Array.getElem?_eq_some_iff.mp found).1
  obtain ⟨layer, layerFound, other, otherFound, layerTranslates⟩ :=
    image_of_getElem? translates.layers (refersTo_range_iff.mpr ⟨bound, rfl⟩)
  cases found.symm.trans otherFound
  exact ⟨layer, layerFound, layerTranslates⟩

theorem Program.Translates.reachable_iff
    (translates : program.Translates meaning circuit ⟨semiring, false⟩) (index : Nat) :
    program.wiring.Reachable program.outputs index ↔
      circuit.wiring.Reachable circuit.outputs index := by
  constructor
  · intro reachable
    obtain ⟨found, refers, foundReachable⟩ :=
      translates.renumbers.index_of_reachable translates.outputs reachable
    rw [(refersTo_range_iff.mp refers).2]
    exact foundReachable
  · intro reachable
    obtain ⟨position, refers, positionReachable⟩ :=
      translates.renumbers.position_of_reachable translates.outputs reachable
    rw [← (refersTo_range_iff.mp refers).2]
    exact positionReachable

end Whole

/-- The pruned image of a circuit stands inside the whole one. -/
theorem Program.Translates.embeds {circuit : Circuit κ} {semiring : Semiring}
    {inner outer : Program} (linked : circuit.Linked)
    (functional : ∀ category, Relator.RightUnique (meaning category))
    (innerTranslates : inner.Translates meaning circuit ⟨semiring, true⟩)
    (outerTranslates : outer.Translates meaning circuit ⟨semiring, false⟩) :
    inner.Embeds (indexAt circuit.topologicalOrder) outer := by
  have ordered := linked.topologicalOrder
  have length : circuit.topologicalOrder.length = inner.layers.length :=
    innerTranslates.layers.length_eq
  exact
    { name := innerTranslates.name.trans outerTranslates.name.symm
      semiring := innerTranslates.semiring.trans outerTranslates.semiring.symm
      layers := by
        intro position layer found
        obtain ⟨index, refers, entry, entryFound, translates⟩ :=
          item_of_getElem? innerTranslates.layers found
        obtain ⟨original, originalFound, originalTranslates⟩ :=
          outerTranslates.image_of_layer entryFound
        have indexed : indexAt circuit.topologicalOrder position = index := RefersTo.indexAt refers
        rw [indexed]
        refine ⟨original, originalFound, functional _ translates.op originalTranslates.op,
          translates.parameters_unique functional originalTranslates, ?_⟩
        rw [eq_of_refersTo_range originalTranslates.inputs]
        exact (eq_map_of_refersTo translates.inputs).symm
      injective := by
        rw [← length]
        exact fun _ bound _ otherBound => indexAt_injective ordered.nodup bound otherBound
      outputs := by
        rw [eq_of_refersTo_range outerTranslates.outputs]
        exact (eq_map_of_refersTo innerTranslates.outputs).symm
      image := by
        intro position
        rw [outerTranslates.reachable_iff, ← ordered.mem_iff, ← length]
        exact exists_indexAt_iff }

theorem mem_visits_of_pruned {circuit : Circuit κ} {visit : Visit κ}
    (member : visit ∈ circuit.visits true) : visit ∈ circuit.visits false := by
  obtain ⟨item, scheduled, inItem⟩ := List.mem_flatMap.mp member
  exact List.mem_flatMap.mpr ⟨item, Circuit.mem_schedule_of_pruned scheduled, inItem⟩

/-- When all layers can be compiled, those that the outputs depend on can be, from any session of a
compiler with the same rules. -/
theorem pipeline_succeeds_pruned {results : Results κ target} {depth : Nat} {circuit : Circuit κ}
    {semiring : Semiring} {session other ended : Session κ target} {handle : Handle}
    (linked : circuit.Linked) (follows : session.compiler.rules.Follows results)
    (read : Options.ofFlags session.compiler.flags = .ok ⟨semiring, false⟩)
    (performed : session.perform backend depth (pipeline circuit) = some (.ok handle, ended))
    (same : other.compiler.rules = session.compiler.rules)
    (otherRead : Options.ofFlags other.compiler.flags = .ok ⟨semiring, true⟩) :
    ∃ pruned prunedEnded,
      other.perform backend depth (pipeline circuit) = some (.ok pruned, prunedEnded) := by
  have ran := (runWith_pipeline_of_options (.within backend depth) circuit read).symm.trans
    performed
  have preserve := follows.preserve backend depth
  have visited := (makes_assembleHandle linked ⟨semiring, false⟩).visited preserve
    (preserve.update _ ⟨rfl, rfl⟩) ran
  have otherFollows : other.compiler.rules.Follows results := same ▸ follows
  have otherPreserve := otherFollows.preserve backend depth
  obtain ⟨pruned, prunedEnded, prunedRan⟩ :=
    (makes_assembleHandle linked ⟨semiring, true⟩).succeeds otherPreserve
      (otherPreserve.update _ ⟨rfl, rfl⟩) fun visit member before beforeSame => by
        obtain ⟨earlier, value, later, earlierSame, applied⟩ :=
          visited visit (mem_visits_of_pruned member)
        have earlierFollows : earlier.compiler.rules.Follows results := earlierSame.1 ▸ follows
        have sameRules : before.compiler.rules = earlier.compiler.rules :=
          beforeSame.1.trans (same.trans earlierSame.1.symm)
        exact ⟨value, earlierFollows.apply_again applied sameRules⟩
  refine ⟨pruned, prunedEnded, ?_⟩
  unfold Session.perform
  rw [← prunedRan]
  exact runWith_pipeline_of_options (.within backend depth) circuit otherRead

theorem rightUnique_resultMeaning (results : Results κ target) (category : Category) :
    Relator.RightUnique (resultMeaning results category) := by
  intro node first second firstResult secondResult
  exact Except.ok.inj (firstResult.symm.trans secondResult)

/-- Pruning preserves the program.  When the pipeline compiles all layers of a circuit from a
builder, with rules whose results depend on the node alone, it also compiles the circuit under the
same semiring when layers may be left out, whatever else the session is like; and the program that
it makes then stands inside the first one. -/
theorem pruning_embeds {results : Results κ target} {depth : Nat} {circuit : Circuit κ}
    {semiring : Semiring} {session other ended : Session κ target} {whole : Handle}
    (built : circuit.Built) (follows : session.compiler.rules.Follows results)
    (read : Options.ofFlags session.compiler.flags = .ok ⟨semiring, false⟩)
    (performed : session.perform backend depth (pipeline circuit) = some (.ok whole, ended))
    (same : other.compiler.rules = session.compiler.rules)
    (otherRead : Options.ofFlags other.compiler.flags = .ok ⟨semiring, true⟩) :
    ∃ pruned prunedEnded,
      other.perform backend depth (pipeline circuit) = some (.ok pruned, prunedEnded) ∧
        ∃ place, pruned.content.Embeds place whole.content := by
  have linked := built.linked
  obtain ⟨pruned, prunedEnded, prunedPerformed⟩ :=
    pipeline_succeeds_pruned linked follows read performed same otherRead
  have otherFollows : other.compiler.rules.Follows results := same ▸ follows
  obtain ⟨⟨options, optionsRead, wholeTranslates⟩, -⟩ :=
    (serves_of_follows results depth).pipeline follows performed
  obtain ⟨⟨prunedOptions, prunedRead, prunedTranslates⟩, -⟩ :=
    (serves_of_follows results depth).pipeline otherFollows prunedPerformed
  cases read.symm.trans optionsRead
  cases otherRead.symm.trans prunedRead
  exact ⟨pruned, prunedEnded, prunedPerformed, indexAt circuit.topologicalOrder,
    prunedTranslates.embeds linked (rightUnique_resultMeaning results) wholeTranslates⟩

/-- The session in which no layer may be left out. -/
def Sharing.wholeSession : Session Kind target :=
  let flags : Flags := NameMap.empty.insert Options.pruneFlagName (.bool false)
  { Sharing.session with compiler := { Sharing.session.compiler with flags := flags } }

/-- Three of the four layers are left. -/
theorem pruning_embeds_sharing :
    ∃ whole ended pruned prunedEnded place,
      Sharing.wholeSession.perform backend 1 (pipeline Sharing.circuit) =
          some (.ok whole, ended) ∧
        whole.content.layers.length = 4 ∧
        Sharing.session.perform backend 1 (pipeline Sharing.circuit) =
          some (.ok pruned, prunedEnded) ∧
        pruned.content = Sharing.program ∧ pruned.content.Embeds place whole.content := by
  have follows := Rulebook.ofResults_follows Sharing.results Sharing.kinds
  have read : Options.ofFlags Sharing.wholeSession.compiler.flags = .ok ⟨.lseSum, false⟩ := rfl
  have prunedRead : Options.ofFlags Sharing.session.compiler.flags = .ok ⟨.lseSum, true⟩ := rfl
  have same : Sharing.session.compiler.rules = Sharing.wholeSession.compiler.rules := rfl
  obtain ⟨whole, ended, performed, length⟩ : ∃ whole ended,
      Sharing.wholeSession.perform backend 1 (pipeline Sharing.circuit) =
          some (.ok whole, ended) ∧
        whole.content.layers.length = 4 := ⟨_, _, rfl, rfl⟩
  obtain ⟨pruned, prunedEnded, prunedPerformed, place, embeds⟩ :=
    pruning_embeds Sharing.built_circuit follows read performed same prunedRead
  obtain ⟨made, performedAgain⟩ : ∃ made, Sharing.session.perform backend 1
      (pipeline Sharing.circuit) = some (.ok ⟨0, 1, Sharing.program⟩, made) := ⟨_, rfl⟩
  cases prunedPerformed.symm.trans performedAgain
  exact ⟨whole, ended, _, _, place, performed, length, performedAgain, rfl, embeds⟩

end Circuitry.Reference
