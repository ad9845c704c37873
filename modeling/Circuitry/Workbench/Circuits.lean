import Circuitry.Workbench.Basic

/-!
Steps that build circuits and parameter graphs, and look at them.

Building goes on after a node is refused; the report says what became of each.
-/

namespace Circuitry.Workbench

/-- A description of a parameter graph. -/
inductive GraphSpec
  | nodes (entries : List (ParameterEntry Kind)) (output : Nat)
  /-- A single node with an initializer. -/
  | tensor (node initializer : Node Kind)

/-- A parameter graph, by name or by description. -/
inductive GraphSource
  | named (name : String)
  | described (spec : GraphSpec)

/-- A description of a layer. -/
structure LayerSpec where
  node : Node Kind
  inputs : List Nat
  parameters : List (String × GraphSource)

/-- A description of a circuit. -/
structure CircuitSpec where
  name : Option String
  layers : List LayerSpec
  outputs : List Nat

/-- Adds parameter nodes in turn; a refused node leaves the builder as it is. -/
def pushNodes (builder : ParameterGraphBuilder Kind) :
    List (ParameterEntry Kind) →
      ParameterGraphBuilder Kind × List (Except (BuildError Kind) Nat)
  | [] => (builder, [])
  | entry :: rest =>
    match builder.push entry.node entry.inputs entry.initializer with
    | .ok (index, grown) =>
      let (final, reports) := pushNodes grown rest
      (final, .ok index :: reports)
    | .error error =>
      let (final, reports) := pushNodes builder rest
      (final, .error error :: reports)

/-- Builds a described parameter graph. -/
def GraphSpec.build : GraphSpec → GraphReport
  | .nodes entries output =>
    let (builder, reports) := pushNodes .empty entries
    ⟨reports, builder.finish output⟩
  | .tensor node initializer => ⟨[], ParameterGraph.tensor node initializer⟩

/-- The parameter graphs of a layer, or why there are none. -/
inductive Gathered
  | graphs (graphs : List (String × ParameterGraph Kind))
  | bad (name : String) (report : GraphReport)
  | unknown (name : String)

/-- Gathers the parameter graphs of a layer; the first that cannot be built ends it. -/
def gather (named : NameMap (ParameterGraph Kind)) : List (String × GraphSource) → Gathered
  | [] => .graphs []
  | (name, source) :: rest =>
    let found : Gathered :=
      match source with
      | .named graphName =>
        match named.get? graphName with
        | some graph => .graphs [(name, graph)]
        | none => .unknown graphName
      | .described spec =>
        let report := spec.build
        match report.graph with
        | .ok graph => .graphs [(name, graph)]
        | .error _ => .bad name report
    match found with
    | .graphs first =>
      match gather named rest with
      | .graphs others => .graphs (first ++ others)
      | failed => failed
    | failed => failed

/-- Adds layers in turn; a refused layer leaves the builder as it is.  Gives the name of a
parameter graph that is not on the workbench, if one is asked for. -/
def pushLayers (named : NameMap (ParameterGraph Kind)) (builder : CircuitBuilder Kind) :
    List LayerSpec → Except String (CircuitBuilder Kind × List LayerReport)
  | [] => .ok (builder, [])
  | spec :: rest =>
    match gather named spec.parameters with
    | .unknown name => .error name
    | .bad name report => do
      let (final, reports) ← pushLayers named builder rest
      return (final, .badParameter name report :: reports)
    | .graphs parameters =>
      match builder.push spec.node spec.inputs parameters with
      | .ok (index, grown) => do
        let (final, reports) ← pushLayers named grown rest
        return (final, .added index :: reports)
      | .error error => do
        let (final, reports) ← pushLayers named builder rest
        return (final, .refused error :: reports)

/-- A step on circuits and parameter graphs. -/
inductive CircuitStep
  | build (circuit : String) (spec : CircuitSpec)
  | fixture (circuit : String) (fixture : Fixture)
  | clone (circuit copy : String)
  | equal (circuit other : String)
  | order (circuit : String)
  | view (circuit : String)
  /-- The first parameter graph of a name in a layer. -/
  | parameter (circuit : String) (layer : Nat) (name : String)
  | buildGraph (graph : String) (spec : GraphSpec)
  | viewGraph (graph : String)

def CircuitStep.perform (bench : Bench) : CircuitStep → Reply
  | .build name spec =>
    match pushLayers bench.graphs (.named spec.name) spec.layers with
    | .error missing => (.unknown missing, bench)
    | .ok (builder, reports) =>
      match builder.finish bench.supply spec.outputs with
      | .ok (circuit, supply) =>
        (.built reports (.ok circuit.id),
          { bench with supply := supply, circuits := bench.circuits.insert name circuit })
      | .error error => (.built reports (.error error), bench)
  | .fixture name ready =>
    match ready.builder.finish bench.supply ready.outputs with
    | .ok (circuit, supply) =>
      (.number circuit.id.number,
        { bench with supply := supply, circuits := bench.circuits.insert name circuit })
    | .error error => (.buildFailure error, bench)
  | .clone name copy =>
    Reply.withNamed bench bench.circuits name fun circuit =>
      (.number circuit.id.number,
        { bench with circuits := bench.circuits.insert copy circuit })
  | .equal name other =>
    Reply.withNamed bench bench.circuits name fun circuit =>
      Reply.ofQuestion bench bench.circuits other fun another => .truth (circuit == another)
  | .order name =>
    Reply.ofQuestion bench bench.circuits name fun circuit => .indices circuit.topologicalOrder
  | .view name => Reply.ofQuestion bench bench.circuits name .circuitView
  | .parameter name index parameterName =>
    Reply.ofQuestion bench bench.circuits name fun circuit =>
      match circuit.layers[index]? with
      | none => .crash
      | some layer =>
        match layer.parameter? parameterName with
        | some graph => .graphView graph
        | none => .absent
  | .buildGraph name spec =>
    let report := spec.build
    match report.graph with
    | .ok graph =>
      (.graphReport report, { bench with graphs := bench.graphs.insert name graph })
    | .error _ => (.graphReport report, bench)
  | .viewGraph name => Reply.ofQuestion bench bench.graphs name .graphView

end Circuitry.Workbench
