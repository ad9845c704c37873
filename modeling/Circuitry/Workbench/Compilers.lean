import Circuitry.Flag.Settings
import Circuitry.Workbench.Registries

/-!
Steps on compilers: making them, adding rules, compiling, and looking at what they hold.
-/

namespace Circuitry.Workbench

/-- How deep the calls of a script may nest.  It is meant to be far more than a script that ends
needs, and costs nothing until it is used; a rule that applies itself without end is broken off
there. -/
def callDepth : Nat := 1000000

namespace Hosted

abbrev target (hosted : Hosted) : Target := hosted.platform.backend.target

/-- The outcome of a script and the workbench after it. -/
inductive Outcome (α : Type)
  | finished (result : Except Fault α)
  | tooDeep

/-- Runs a script on a compiler and keeps the compiler under its name. -/
def run {α : Type} (hosted : Hosted) (bench : Bench) (name : String)
    (script : Script Kind hosted.target α) : Outcome α × Bench :=
  let session : Session Kind hosted.target :=
    ⟨hosted.compiler, bench.events, bench.supply, bench.invocations⟩
  match session.perform hosted.platform.backend callDepth script with
  | none => (.tooDeep, bench)
  | some (result, later) =>
    (.finished (result.mapError (·.mapOutput hosted.target.outline)),
      { bench with
        compilers := bench.compilers.insert name ⟨hosted.platform, later.compiler⟩
        events := later.events
        supply := later.supply
        invocations := later.invocations })

/-- Runs a script and answers with its value. -/
def answer {α : Type} (hosted : Hosted) (bench : Bench) (name : String)
    (script : Script Kind hosted.target α) (display : α → Answer) : Reply :=
  match hosted.run bench name script with
  | (.finished (.ok value), later) => (display value, later)
  | (.finished (.error error), later) => (.failure error, later)
  | (.tooDeep, later) => (.crash, later)

/-- What the names in planned rules stand for. -/
def surroundings (platform : Platform) (bench : Bench) :
    Surroundings platform.backend.target where
  circuit name := bench.circuits.get? name
  output name := (bench.compiled.get? name).bind platform.ofCompiled?
  value := platform.value

end Hosted

/-- A planned rule for a kind; it may be made for nodes of another kind. -/
structure RuleEntry where
  kind : Kind
  rule : PlannedRule
  madeFor : Kind

/-- A description of a registry of a compiler. -/
structure RegistrySpec where
  category : Category
  policy : PolicyChoice
  rules : List RuleEntry

/-- A change of a switch, where the side circuit is named. -/
inductive SwitchStep
  | change (change : SwitchChange)
  | sideCircuit (name : String)

/-- How a compiler is made. -/
inductive CompilerSource
  /-- With the rules that come with its backend, and with flags over those of a setting. -/
  | standard (setting : Option String)
  /-- Without rules. -/
  | bare
  | described (layers parameters initializers : RegistrySpec)

inductive CompilerStep
  | addStandardRules
  | addRule (category : Category) (kind : Kind) (rule : PlannedRule)
  | find (category : Category) (kind : Kind)
  | knowsRule (category : Category) (kind : Kind)
  | compileNode (category : Category) (node : Node Kind)
  | compile (circuit : String) (output : Option String) (brief : Bool)
  | knowsCircuit (circuit : String)
  | knowsOutput (output : String)
  | outputOf (circuit : String)
  | circuitOf (output : String)
  | register (circuit output : String)
  | state
  | registries
  | outline
  | configure (changes : List SwitchStep)
  | examine (check : Check)

/-! ## Making compilers -/

/-- Gives a new compiler its name. -/
def keepCompiler (bench : Bench) (name : String) (hosted : Hosted) : Bench :=
  { bench with
    compilers := bench.compilers.insert name hosted
    compilersMade := bench.compilersMade + 1 }

/-- Registers planned rules in turn; gives the registry or the first error, and the workbench with
what was reported. -/
def registerRules (platform : Platform) (slot : Category)
    (registry : Registry Kind (Rule Kind platform.backend.target slot)) (bench : Bench) :
    List RuleEntry →
      Except (RegistryError Kind) (Registry Kind (Rule Kind platform.backend.target slot)) × Bench
  | [] => (.ok registry, bench)
  | entry :: rest =>
    let script := entry.rule.script (Hosted.surroundings platform bench) [bench.rulesMade] slot
    let rule : Rule Kind platform.backend.target slot := Rule.ofKind entry.madeFor fun _ => script
    let made : List (Event Kind) :=
      if entry.madeFor = entry.kind then []
      else [.registered entry.madeFor.category entry.madeFor]
    let counted : Bench :=
      { bench with rulesMade := bench.rulesMade + 1, events := bench.events ++ made }
    match registry.add entry.kind rule with
    | .error error => (.error error, counted)
    | .ok (grown, events) =>
      registerRules platform slot grown { counted with events := counted.events ++ events } rest

/-- Makes the registry of a description, for a slot of a compiler. -/
def makeRegistry (platform : Platform) (slot : Category) (bench : Bench) (spec : RegistrySpec) :
    Except (RegistryError Kind) (Registry Kind (Rule Kind platform.backend.target slot)) × Bench :=
  registerRules platform slot (.empty spec.category (spec.policy.policy bench)) bench spec.rules

/-- Makes a compiler of three described registries. -/
def makeDescribed (bench : Bench) (name : String) (platform : Platform)
    (layers parameters initializers : RegistrySpec) (flags : Flags) : Reply :=
  match makeRegistry platform .layer bench layers with
  | (.error error, later) => (.failure (.registry error), later)
  | (.ok layerRules, afterLayers) =>
    match makeRegistry platform .parameter afterLayers parameters with
    | (.error error, later) => (.failure (.registry error), later)
    | (.ok parameterRules, afterParameters) =>
      match makeRegistry platform .initializer afterParameters initializers with
      | (.error error, later) => (.failure (.registry error), later)
      | (.ok initializerRules, later) =>
        match Rulebook.ofRegistries layerRules parameterRules initializerRules with
        | .error error => (.failure (error.mapOutput platform.backend.target.outline), later)
        | .ok rules =>
          (.ok, keepCompiler later name
            ⟨platform, platform.start later.compilersMade, rules, flags, .empty⟩)

/-- Makes a compiler without rules. -/
def makeBare (bench : Bench) (name : String) (platform : Platform) (flags : Flags) :
    Hosted × Bench :=
  let hosted : Hosted :=
    ⟨platform, .new (platform.start bench.compilersMade) bench.policy flags⟩
  (hosted, keepCompiler bench name hosted)

/-- Makes a compiler with the rules that come with its backend. -/
def makeStandard (bench : Bench) (name : String) (platform : Platform) (setting : Option String)
    (flags : Flags) : Reply :=
  match Flags.ofVariable setting with
  | .error error => (.failure (.flag error), bench)
  | .ok lower =>
    let (hosted, later) := makeBare bench name platform (lower.overlay flags)
    hosted.answer later name hosted.platform.standardRules fun _ => .ok

/-- Makes a compiler and gives it a name. -/
def CompilerSource.make (bench : Bench) (name : String) (platform : Platform) (flags : Flags) :
    CompilerSource → Reply
  | .standard setting => makeStandard bench name platform setting flags
  | .bare => (.ok, (makeBare bench name platform flags).2)
  | .described layers parameters initializers =>
    makeDescribed bench name platform layers parameters initializers flags

/-- The numbers of the circuits and of what they are compiled to, in the order of the circuits. -/
def compiledPairs {target : Target} (number : target.Output → Nat)
    (ledger : Ledger (Circuit Kind) target.Output) : List (Nat × Nat) :=
  (ledger.forward.map fun pair => (pair.1.id.number, number pair.2)).mergeSort
    fun left right => left.1 ≤ right.1

namespace Hosted

/-- What is told about a compiler. -/
def state (hosted : Hosted) : CompilerState where
  backend := hosted.target.name
  statistics := hosted.platform.statistics hosted.compiler.state
  flags := hosted.compiler.flags
  compiled :=
    compiledPairs (fun output => (hosted.platform.toCompiled output).number) hosted.compiler.ledger

/-- The registries of a compiler without their rules. -/
def registries (hosted : Hosted) : List (Registry Kind Unit) :=
  Category.all.map hosted.compiler.view.registries

/-- The outline of the compiled circuits. -/
def outlineLedger (hosted : Hosted) : String :=
  Text.mapping (hosted.compiler.ledger.forward.map fun pair =>
    (pair.1.id.outline, hosted.target.outline pair.2))

def outline (hosted : Hosted) : String :=
  Text.record "Compiler"
    [("backend", hosted.platform.outline hosted.compiler.state),
     ("layers", hosted.compiler.rules.layers.outline),
     ("parameters", hosted.compiler.rules.parameters.outline),
     ("initializers", hosted.compiler.rules.initializers.outline),
     ("flags", Flags.outline hosted.compiler.flags),
     ("compiled", hosted.outlineLedger)]

/-- Goes on with a compiled circuit of the compiler's backend. -/
def withOutput (hosted : Hosted) (bench : Bench) (name : String)
    (next : hosted.target.Output → Reply) : Reply :=
  match (bench.compiled.get? name).bind hosted.platform.ofCompiled? with
  | some output => next output
  | none => (.unknown name, bench)

/-- The switch changes that steps stand for, or a name that is not on the workbench. -/
def switchChanges (bench : Bench) : List SwitchStep → Except String (List SwitchChange)
  | [] => .ok []
  | .change change :: rest => (switchChanges bench rest).map (change :: ·)
  | .sideCircuit name :: rest =>
    match bench.circuits.get? name with
    | some circuit => (switchChanges bench rest).map (.sideCircuit (some circuit) :: ·)
    | none => .error name

end Hosted

/-! ## Performing steps -/

/-- Compiles a circuit; its value gets a name if one is given. -/
def compileStep (bench : Bench) (name : String) (hosted : Hosted) (circuit : Circuit Kind)
    (outputName : Option String) (brief : Bool) : Reply :=
  match hosted.run bench name (Script.compile circuit) with
  | (.finished (.ok output), later) =>
    let compiled := hosted.platform.toCompiled output
    (.compiled compiled.number (if brief then none else some compiled),
      match outputName with
      | some chosen => { later with compiled := later.compiled.insert chosen compiled }
      | none => later)
  | (.finished (.error error), later) => (.failure error, later)
  | (.tooDeep, later) => (.crash, later)

/-- Checks a compiler; whatever fails breaks the step off. -/
def checkStep (bench : Bench) (name : String) (hosted : Hosted) (check : Check) : Reply :=
  match hosted.run bench name (check.script : Script Kind hosted.target Unit) with
  | (.finished (.ok _), later) => (.ok, later)
  | (_, later) => (.crash, later)

def CompilerStep.perform (bench : Bench) (name : String) (hosted : Hosted) :
    CompilerStep → Reply
  | .addStandardRules =>
    hosted.answer bench name hosted.platform.standardRules fun _ => .ok
  | .addRule category kind rule =>
    let script := rule.script (Hosted.surroundings hosted.platform bench) [bench.rulesMade] category
    hosted.answer { bench with rulesMade := bench.rulesMade + 1 } name
      (Script.addRule category kind fun _ => script) fun _ => .ok
  | .find category kind =>
    match (hosted.compiler.rules.registry category).find kind with
    | .ok _ => (.found, bench)
    | .error error => (.failure (.registry error), bench)
  | .knowsRule category kind =>
    (.truth ((hosted.compiler.rules.registry category).contains kind), bench)
  | .compileNode category node =>
    hosted.answer bench name (Script.compileNode category node) fun value =>
      .nodeValue (hosted.platform.display category value)
  | .compile circuitName outputName brief =>
    Reply.withNamed bench bench.circuits circuitName fun circuit =>
      compileStep bench name hosted circuit outputName brief
  | .knowsCircuit circuitName =>
    Reply.ofQuestion bench bench.circuits circuitName fun circuit =>
      .truth (hosted.compiler.ledger.hasKey circuit)
  | .knowsOutput outputName =>
    hosted.withOutput bench outputName fun output =>
      (.truth (hosted.compiler.ledger.hasValue output), bench)
  | .outputOf circuitName =>
    Reply.ofQuestion bench bench.circuits circuitName fun circuit =>
      .ofExcept (·.mapOutput hosted.target.outline)
        (fun output => .number (hosted.platform.toCompiled output).number)
        (hosted.compiler.outputOf circuit)
  | .circuitOf outputName =>
    hosted.withOutput bench outputName fun output =>
      (.ofExcept (·.mapOutput hosted.target.outline) (fun circuit => .number circuit.id.number)
        (hosted.compiler.circuitOf output), bench)
  | .register circuitName outputName =>
    Reply.withNamed bench bench.circuits circuitName fun circuit =>
      hosted.withOutput bench outputName fun output =>
        hosted.answer bench name (Script.register circuit output) fun _ => .ok
  | .state => (.compilerState hosted.state, bench)
  | .registries => (.registryViews hosted.registries, bench)
  | .outline => (.text hosted.outline, bench)
  | .configure steps =>
    match Hosted.switchChanges bench steps with
    | .error missing => (.unknown missing, bench)
    | .ok changes =>
      hosted.answer bench name (Script.update (hosted.platform.configure changes)) fun _ => .ok
  | .examine check => checkStep bench name hosted check

end Circuitry.Workbench
