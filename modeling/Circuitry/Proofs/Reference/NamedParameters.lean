import Circuitry.Proofs.Compiler.Compilation
import Circuitry.Proofs.Graph.Built
import Circuitry.Proofs.Reference.Faithful
import Mathlib.Tactic.FinCases

/-!
# Parameters by name

A layer is given parameter graphs under names, and nothing keeps a name from being given twice.
Asked for a name, the layer answers with the first graph, but its compiled counterpart has the image
of the last one.  So both have the same names, and they agree on the names that are given once.
-/

namespace Circuitry.Reference

variable {κ : Type} [Vocabulary κ]

/-- There is a parameter exactly when there is a graph, and it is the image of the graph. -/
def ImageOf (meaning : Meaning κ) (graph? : Option (ParameterGraph κ))
    (parameter? : Option Parameter) : Prop :=
  Option.Rel (fun graph parameter => parameter.Translates meaning graph) graph? parameter?

theorem ImageOf.eq_none_iff {meaning : Meaning κ} {graph? : Option (ParameterGraph κ)}
    {parameter? : Option Parameter} (image : ImageOf meaning graph? parameter?) :
    parameter? = none ↔ graph? = none := by
  cases image <;> simp

/-- Under each name stands the image of the last graph that the layer is given under the name.  So
the names are those of the layer, and under a name that is given once stands the image of the graph
with which the layer answers. -/
structure AgreesByName (meaning : Meaning κ) (entry : LayerEntry κ) (layer : Layer) : Prop where
  absent : ∀ name, layer.parameters.get? name = none ↔ entry.parameter? name = none
  last : ∀ name, ImageOf meaning (lastOf name entry.parameters) (layer.parameters.get? name)
  once : ∀ name, (entry.parameters.map (·.1)).count name ≤ 1 →
    ImageOf meaning (entry.parameter? name) (layer.parameters.get? name)

theorem Layer.Translates.agreesByName {meaning : Meaning κ} {order : List Nat}
    {entry : LayerEntry κ} {layer : Layer} (translates : layer.Translates meaning order entry) :
    AgreesByName meaning entry layer where
  absent name := (ImageOf.eq_none_iff (translates.last name)).trans lookup_eq_none_iff_lastOf.symm
  last := translates.last
  once name given := by
    rw [LayerEntry.parameter?, lookup_eq_lastOf given]
    exact translates.last name

/-- The layers of a program stand in a relation to those of a circuit, in the order in which these
are compiled. -/
def Layerwise (relation : LayerEntry κ → Layer → Prop) (circuit : Circuit κ) (prune : Bool)
    (program : Program) : Prop :=
  List.Forall₂
    (fun index layer => ∃ entry, circuit.layers[index]? = some entry ∧ relation entry layer)
    (circuit.order prune) program.layers

theorem Program.Translates.agreesByName {meaning : Meaning κ} {circuit : Circuit κ}
    {options : Options} {program : Program}
    (translates : program.Translates meaning circuit options) :
    Layerwise (AgreesByName meaning) circuit options.prune program := by
  refine translates.layers.imp fun index layer image => ?_
  obtain ⟨entry, located, layerTranslates⟩ := image
  exact ⟨entry, located, layerTranslates.agreesByName⟩

/-- The handle is to a program whose layers agree with those of the circuit by name. -/
def CompiledByName (results : Results κ target) (circuit : Circuit κ) (handle : Handle) : Prop :=
  ∃ prune, Layerwise (AgreesByName (resultMeaning results)) circuit prune handle.content

/-- Let the results of the rules depend on the node alone, as long as the compiler is in a safe
session; the rules may call the compiler back.  When a compilation succeeds, each compiled layer has
the names of its layer and no others, and under each name the image of the last graph that the layer
is given.  This is the graph with which the layer answers, if the name is given once.  A circuit
that has been compiled before gets its handle again, so of that one the same is asked. -/
theorem compile_agrees_by_name {results : Results κ target} {depth : Nat}
    {safe : Session κ target → Prop}
    (serves : Serves (.within backend depth) safe (resultMeaning results))
    {circuit : Circuit κ} {session ended : Session κ target} {handle : Handle}
    (started : safe session)
    (before : ∀ earlier, session.compiler.ledger.valueOf? circuit = some earlier →
      CompiledByName results circuit earlier)
    (performed : session.perform backend (depth + 1) (Script.compile circuit) =
      some (.ok handle, ended)) :
    CompiledByName results circuit handle ∧
      (session.compiler.ledger.valueOf? circuit = none →
        ∃ options, Options.ofFlags session.compiler.flags = .ok options ∧
          Layerwise (AgreesByName (resultMeaning results)) circuit options.prune
            handle.content) := by
  obtain known | ⟨missing, last, ran⟩ := Session.output_of_perform_compile performed
  · refine ⟨before handle known, fun missing => ?_⟩
    cases known.symm.trans missing
  · obtain ⟨⟨options, read, translates⟩, -⟩ := serves.pipeline (serves.report _ started) ran
    exact ⟨⟨options.prune, translates.agreesByName⟩,
      fun _ => ⟨options, read, translates.agreesByName⟩⟩

namespace Repeated

def tensor (size : UInt64) : ParameterGraph Kind where
  entries := #[⟨⟨.tensorParameter, ⟨[size], true⟩⟩, [], none⟩]
  output := 0

/-- One name is given twice. -/
def entry : LayerEntry Kind :=
  ⟨⟨.sumLayer, ⟨1, 1, 1⟩⟩, [], [("w", tensor 1), ("v", tensor 3), ("w", tensor 2)]⟩

def circuit : Circuit Kind where
  id := ⟨1⟩
  name := none
  layers := #[entry]
  outputs := [0]

/-- The parameter that a tensor becomes. -/
def parameter (size : UInt64) : Parameter :=
  ⟨[⟨.tensor [size] true, [], none⟩], 0⟩

def handle : Handle :=
  ⟨0, 1, ⟨none, .lseSum,
    [⟨.sum 1 1 1, [], .ofList [("v", parameter 3), ("w", parameter 2)]⟩], [0]⟩⟩

theorem built_tensor (size : UInt64) : (tensor size).Built :=
  ⟨⟨(tensor size).entries⟩, 0, .pushAll (tensor size).entries.toList .empty rfl, rfl⟩

theorem built_circuit : circuit.Built := by
  refine ⟨⟨none, circuit.layers⟩, {}, ⟨1⟩, [0], ?_, rfl⟩
  refine .pushAll circuit.layers.toList (.named none) ?_ rfl
  refine List.forall_mem_singleton.mpr fun pair member => ?_
  fin_cases member <;> exact built_tensor _

/-- The rule counts its application before it gives the result. -/
def counted (category : Category) : Rule Kind target category := fun node =>
  .updating (State.countRule category) (.done (Sharing.results category node))

def rules : Rulebook Kind target where
  layers := ⟨.layer, .reject, [(.sumLayer, counted .layer)]⟩
  parameters := ⟨.parameter, .reject, [(.tensorParameter, counted .parameter)]⟩
  initializers := .empty .initializer .reject

def session (rules : Rulebook Kind target) : Session Kind target :=
  ⟨⟨({} : State), rules, .empty, .empty⟩, #[], {}, []⟩

theorem eq_counted {category : Category} {kind : Kind} {rule : Rule Kind target category}
    (found : (rules.registry category).find kind = .ok rule) : rule = counted category := by
  have member := Registry.mem_of_rule? (Registry.rule?_of_find found)
  cases category with
  | layer => exact congrArg Prod.snd (List.mem_singleton.mp member)
  | parameter => exact congrArg Prod.snd (List.mem_singleton.mp member)
  | initializer => cases member

theorem serves_counted (depth : Nat) :
    Serves (.within backend depth) (fun session => session.compiler.rules = rules)
      (resultMeaning Sharing.results) where
  apply := by
    intro category node session later value same applied
    cases depth with
    | zero => cases applied
    | succ depth =>
        obtain ⟨error, -, failed, -⟩ | ⟨rule, found, ran⟩ := Calls.apply_cases applied
        · cases failed
        · rw [same] at found
          rw [eq_counted found] at ran
          change some (Sharing.results category node, Session.update _ _) = _ at ran
          obtain ⟨result, rfl⟩ := Prod.mk.inj (Option.some.inj ran)
          exact ⟨result, same⟩
  update _ same := same
  report _ same := same

end Repeated

/-- Of the two graphs the last one is compiled, in a first compilation and when it is answered
again. -/
theorem compile_agrees_by_name_repeated :
    ∃ middle ended,
      (Repeated.session Repeated.rules).perform backend 3 (Script.compile Repeated.circuit) =
          some (.ok Repeated.handle, middle) ∧
        middle.perform backend 3 (Script.compile Repeated.circuit) =
          some (.ok Repeated.handle, ended) ∧
        CompiledByName Sharing.results Repeated.circuit Repeated.handle := by
  obtain ⟨middle, ended, performed, again, known, same⟩ : ∃ middle ended,
      (Repeated.session Repeated.rules).perform backend 3 (Script.compile Repeated.circuit) =
          some (.ok Repeated.handle, middle) ∧
        middle.perform backend 3 (Script.compile Repeated.circuit) =
          some (.ok Repeated.handle, ended) ∧
        middle.compiler.ledger.valueOf? Repeated.circuit = some Repeated.handle ∧
        middle.compiler.rules = Repeated.rules := ⟨_, _, rfl, rfl, rfl, rfl⟩
  have serves := Repeated.serves_counted 2
  have missing :
      (Repeated.session Repeated.rules).compiler.ledger.valueOf? Repeated.circuit = none := rfl
  have first := (compile_agrees_by_name serves rfl
    (fun earlier found => nomatch missing.symm.trans found) performed).1
  have second := compile_agrees_by_name serves same
    (fun earlier found => Option.some.inj (known.symm.trans found) ▸ first) again
  exact ⟨middle, ended, performed, again, second.1⟩

/-- A name that is given twice is not looked up alike: the layer answers with the first graph, and
the last one is compiled. -/
theorem not_compile_agrees_by_name :
    ¬∀ (results : Results Kind target) (depth : Nat) (circuit : Circuit Kind)
        (session ended : Session Kind target) (handle : Handle) (options : Options),
        session.compiler.rules.Follows results → circuit.Built →
          session.compiler.ledger.valueOf? circuit = none →
            Options.ofFlags session.compiler.flags = .ok options →
              session.perform backend depth (Script.compile circuit) = some (.ok handle, ended) →
                Layerwise
                  (fun entry layer => ∀ name, ImageOf (resultMeaning results)
                    (entry.parameter? name) (layer.parameters.get? name))
                  circuit options.prune handle.content := by
  intro all
  obtain ⟨ended, performed⟩ : ∃ ended,
      (Repeated.session (.ofResults Sharing.results Sharing.kinds)).perform backend 3
        (Script.compile Repeated.circuit) = some (.ok Repeated.handle, ended) := ⟨_, rfl⟩
  have alike := all Sharing.results 3 Repeated.circuit _ ended Repeated.handle ⟨.lseSum, true⟩
    (Rulebook.ofResults_follows _ _) Repeated.built_circuit rfl rfl performed
  have layers : List.Forall₂ _ [0] [_] := alike
  obtain ⟨entry, located, images⟩ := (List.forall₂_cons.mp layers).1
  cases located
  have image : ImageOf (resultMeaning Sharing.results) (some (Repeated.tensor 1))
    (some (Repeated.parameter 2)) := images "w"
  obtain ⟨translates⟩ := image
  have nodes : List.Forall₂ _ [0] [_] := translates.nodes
  obtain ⟨node, located, nodeTranslates⟩ := (List.forall₂_cons.mp nodes).1
  cases located
  cases nodeTranslates.op

end Circuitry.Reference
