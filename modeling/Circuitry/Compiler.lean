import Circuitry.Script

/-!
Compilers, and how they run scripts.

A compiler owns the state of its backend, one registry of rules for each category, flags, and the
ledger of compiled circuits.  A circuit compiled before is answered from the ledger.  Otherwise
the pipeline runs, its result is registered unless it did so itself, and when anything fails the
ledger is rolled back to where it was.

Scripts call the compiler that runs them, and rules may call it again.  The run is defined by
recursion on the depth of such calls; a run that needs more depth than it is given has no answer.
-/

namespace Circuitry

/-! ## The parts of a compiler -/

/-- The registries of a compiler. -/
structure Rulebook (κ : Type) [Vocabulary κ] (target : Target) where
  layers : Registry κ (Rule κ target .layer)
  parameters : Registry κ (Rule κ target .parameter)
  initializers : Registry κ (Rule κ target .initializer)

namespace Rulebook

variable {κ : Type} [Vocabulary κ] {target : Target}

def registry (book : Rulebook κ target) :
    (category : Category) → Registry κ (Rule κ target category)
  | .layer => book.layers
  | .parameter => book.parameters
  | .initializer => book.initializers

/-- The rulebook with another registry for a category. -/
def withRegistry (book : Rulebook κ target) :
    (category : Category) → Registry κ (Rule κ target category) → Rulebook κ target
  | .layer, registry => { book with layers := registry }
  | .parameter, registry => { book with parameters := registry }
  | .initializer, registry => { book with initializers := registry }

/-- The rulebook without rules. -/
def empty (policy : DuplicatePolicy) : Rulebook κ target where
  layers := .empty .layer policy
  parameters := .empty .parameter policy
  initializers := .empty .initializer policy

/-- Adds a rule; gives the rulebook and what is reported. -/
def add (book : Rulebook κ target) (category : Category) (kind : κ)
    (rule : Rule κ target category) :
    Except (RegistryError κ) (Rulebook κ target × List (Event κ)) :=
  match (book.registry category).add kind rule with
  | .ok (registry, events) => .ok (book.withRegistry category registry, events)
  | .error error => .error error

/-- The rulebook of three registries, each of which has to have the category of its slot. -/
def ofRegistries (layers : Registry κ (Rule κ target .layer))
    (parameters : Registry κ (Rule κ target .parameter))
    (initializers : Registry κ (Rule κ target .initializer)) :
    Except (Failure κ target) (Rulebook κ target) :=
  if layers.category ≠ .layer then .error (.registrySlot .layer layers.category)
  else if parameters.category ≠ .parameter then
    .error (.registrySlot .parameter parameters.category)
  else if initializers.category ≠ .initializer then
    .error (.registrySlot .initializer initializers.category)
  else .ok ⟨layers, parameters, initializers⟩

end Rulebook

structure Compiler (κ : Type) [Vocabulary κ] (target : Target) where
  state : target.State
  rules : Rulebook κ target
  flags : Flags
  ledger : Ledger (Circuit κ) target.Output

/-- An invocation of a rule, with the tag it is counted under. -/
structure Invocation where
  rule : List Nat
  tag : String
  /-- The number of earlier invocations of the rule. -/
  earlier : Nat
  deriving DecidableEq, Repr

/-- A compiler at work: with the events reported, the identities taken, and the rules invoked, the
latest first. -/
structure Session (κ : Type) [Vocabulary κ] (target : Target) where
  compiler : Compiler κ target
  events : Array (Event κ)
  supply : Supply
  invocations : List Invocation

/-- The answer to a request and the session after it; none if the request needs more depth. -/
abbrev Run (κ : Type) [Vocabulary κ] (target : Target) (α : Type) : Type 1 :=
  Option (Except (Failure κ target) α × Session κ target)

namespace Compiler

variable {κ : Type} [Vocabulary κ] {target : Target}

/-- The compiler without rules and compiled circuits. -/
def new (state : target.State) (policy : DuplicatePolicy) (flags : Flags) :
    Compiler κ target where
  state := state
  rules := .empty policy
  flags := flags
  ledger := .empty

/-- What a script can see. -/
def view (compiler : Compiler κ target) : View κ target where
  state := compiler.state
  flags := compiler.flags
  ledger := compiler.ledger
  registries category := (compiler.rules.registry category).map fun _ => ()

/-- What a circuit has been compiled to. -/
def outputOf (compiler : Compiler κ target) (circuit : Circuit κ) :
    Except (Failure κ target) target.Output :=
  match compiler.ledger.valueOf? circuit with
  | some output => .ok output
  | none => .error (.neverCompiled circuit.id)

/-- The circuit that has been compiled to an output. -/
def circuitOf (compiler : Compiler κ target) (output : target.Output) :
    Except (Failure κ target) (Circuit κ) :=
  match compiler.ledger.keyOf? output with
  | some circuit => .ok circuit
  | none => .error (.unknownOutput output)

def register (compiler : Compiler κ target) (circuit : Circuit κ) (output : target.Output) :
    Except (Failure κ target) (Compiler κ target) :=
  match compiler.ledger.register circuit output with
  | .ok ledger => .ok { compiler with ledger := ledger }
  | .error conflict => .error (.ofConflict circuit output conflict)

/-- Accepts the result of a pipeline: registers it, unless the pipeline has registered the same
result for the circuit. -/
def settle (compiler : Compiler κ target) (circuit : Circuit κ) (output : target.Output) :
    Except (Failure κ target) (Compiler κ target) :=
  match compiler.ledger.valueOf? circuit with
  | some existing =>
    if existing == output then .ok compiler
    else .error (.conflictingResult circuit.id existing output)
  | none => compiler.register circuit output

section Accepted

variable {compiler later : Compiler κ target} {circuit : Circuit κ} {output : target.Output}

theorem eq_of_register (registered : compiler.register circuit output = .ok later) :
    ∃ ledger, compiler.ledger.register circuit output = .ok ledger ∧
      later = { compiler with ledger := ledger } := by
  unfold register at registered
  split at registered
  · next ledger accepted =>
      cases registered
      exact ⟨ledger, accepted, rfl⟩
  · contradiction

/-- A result is accepted because the circuit has an equal one already, or because it can be
registered. -/
theorem settle_cases (settled : compiler.settle circuit output = .ok later) :
    (∃ known, compiler.ledger.valueOf? circuit = some known ∧ (known == output) = true ∧
      later = compiler) ∨
    (compiler.ledger.valueOf? circuit = none ∧ compiler.register circuit output = .ok later) := by
  unfold settle at settled
  split at settled
  · next known found =>
      split at settled
      · next same =>
          cases settled
          exact Or.inl ⟨known, found, same, rfl⟩
      · contradiction
  · next missing => exact Or.inr ⟨missing, settled⟩

end Accepted

end Compiler

/-! ## Running scripts -/

namespace Session

variable {κ : Type} [Vocabulary κ] {target : Target} {α : Type}

def report (session : Session κ target) (events : List (Event κ)) : Session κ target :=
  { session with events := session.events ++ events }

def addRule (session : Session κ target) (category : Category) (kind : κ)
    (rule : Rule κ target category) : Except (Failure κ target) Unit × Session κ target :=
  match session.compiler.rules.add category kind rule with
  | .ok (rules, events) =>
    (.ok (), { session with compiler := { session.compiler with rules := rules } }.report events)
  | .error error => (.error (.registry error), session)

def register (session : Session κ target) (circuit : Circuit κ) (output : target.Output) :
    Except (Failure κ target) Unit × Session κ target :=
  match session.compiler.register circuit output with
  | .ok compiler => (.ok (), { session with compiler := compiler })
  | .error error => (.error error, session)

/-- Changes the state of the backend. -/
def update (session : Session κ target) (change : target.State → target.State) :
    Session κ target :=
  { session with
    compiler := { session.compiler with state := change session.compiler.state } }

def finishCircuit (session : Session κ target) (builder : CircuitBuilder κ)
    (outputs : List Nat) : Except (BuildError κ) (Circuit κ) × Session κ target :=
  match builder.finish session.supply outputs with
  | .ok (circuit, supply) => (.ok circuit, { session with supply := supply })
  | .error error => (.error error, session)

/-- Records an invocation of a rule; gives the number of its earlier ones. -/
def countInvocation (session : Session κ target) (rule : List Nat) (tag : String) :
    Nat × Session κ target :=
  let earlier := ((session.invocations.find? (·.rule == rule)).map (·.earlier + 1)).getD 0
  (earlier, { session with invocations := ⟨rule, tag, earlier⟩ :: session.invocations })

/-- Reports that a run has succeeded, and closes it. -/
def succeed (session : Session κ target) : Session κ target :=
  session.report [.compiled session.compiler.ledger.size, .closed]

/-- Rolls the ledger back, reports that a run has failed, and closes it. -/
def abort (session : Session κ target) (checkpoint : Nat) (error : Failure κ target) :
    Session κ target :=
  let (ledger, dropped) := session.compiler.ledger.rollback checkpoint
  let ending : List (Event κ) := [.failed (error.mapOutput target.outline).message, .closed]
  { session with compiler := { session.compiler with ledger := ledger } }.report
    (if dropped = 0 then ending else .rolledBack dropped :: ending)

/-- Ends a run of the pipeline with its result. -/
def conclude (session : Session κ target) (checkpoint : Nat) (circuit : Circuit κ)
    (result : Except (Failure κ target) target.Output) :
    Except (Failure κ target) target.Output × Session κ target :=
  match result with
  | .error error => (.error error, session.abort checkpoint error)
  | .ok output =>
    match session.compiler.settle circuit output with
    | .ok compiler => (.ok output, { session with compiler := compiler }.succeed)
    | .error error => (.error error, session.abort checkpoint error)

end Session

/-- How the requests of a script that run further scripts are answered. -/
structure Calls (κ : Type) [Vocabulary κ] (target : Target) where
  compile : Circuit κ → Session κ target → Run κ target target.Output
  apply : (category : Category) → κ → Node κ → Bool → Session κ target →
    Run κ target (target.Value category)

/-- Runs a script, given answers for the requests that run further scripts. -/
def Script.runWith {κ : Type} [Vocabulary κ] {target : Target} (calls : Calls κ target)
    {α : Type} (script : Script κ target α) (session : Session κ target) : Run κ target α :=
  match script with
  | .done outcome => some (outcome, session)
  | .compiling circuit next =>
    match calls.compile circuit session with
    | none => none
    | some (answer, later) => (next answer).runWith calls later
  | .registering circuit output next =>
    let (answer, later) := session.register circuit output
    (next answer).runWith calls later
  | .applying category kind node announced next =>
    match calls.apply category kind node announced session with
    | none => none
    | some (answer, later) => (next answer).runWith calls later
  | .addingRule category kind body next =>
    let (answer, later) := session.addRule category kind (Rule.ofKind kind body)
    (next answer).runWith calls later
  | .viewing next => (next session.compiler.view).runWith calls session
  | .updating change next => next.runWith calls (session.update change)
  | .noting message details next =>
    next.runWith calls (session.report [.note message details])
  | .counting rule tag next =>
    let (earlier, later) := session.countInvocation rule tag
    (next earlier).runWith calls later
  | .finishing builder outputs next =>
    let (answer, later) := session.finishCircuit builder outputs
    (next answer).runWith calls later

/-- A sequence of scripts runs as the first and then, if that succeeds, the second. -/
theorem Script.runWith_bind {κ : Type} [Vocabulary κ] {target : Target}
    (calls : Calls κ target) {α β : Type} (first : Script κ target α)
    (next : α → Script κ target β) (session : Session κ target) :
    (first.bind next).runWith calls session =
      match first.runWith calls session with
      | none => none
      | some (.ok value, later) => (next value).runWith calls later
      | some (.error error, later) => some (.error error, later) := by
  induction first generalizing session with
  | done outcome => cases outcome <;> rfl
  | compiling circuit rest hypothesis =>
    simp only [bind, runWith]
    cases calls.compile circuit session with
    | none => rfl
    | some answered => exact hypothesis answered.1 next answered.2
  | registering circuit output rest hypothesis => exact hypothesis _ next _
  | applying category kind node announced rest hypothesis =>
    simp only [bind, runWith]
    cases calls.apply category kind node announced session with
    | none => rfl
    | some answered => exact hypothesis answered.1 next answered.2
  | addingRule category kind body rest _ hypothesis => exact hypothesis _ next _
  | viewing rest hypothesis => exact hypothesis _ next _
  | updating change rest hypothesis => exact hypothesis next _
  | noting message details rest hypothesis => exact hypothesis next _
  | counting rule tag rest hypothesis => exact hypothesis _ next _
  | finishing builder outputs rest hypothesis => exact hypothesis _ next _

namespace Calls

variable {κ : Type} [Vocabulary κ]

/-- The answers when no further script may run. -/
def none {target : Target} : Calls κ target where
  compile _ _ := .none
  apply _ _ _ _ _ := .none

/-- Compiles a circuit, where the pipeline runs with given answers. -/
def compileWith (backend : Backend κ) (calls : Calls κ backend.target) (circuit : Circuit κ)
    (session : Session κ backend.target) : Run κ backend.target backend.target.Output :=
  match session.compiler.ledger.valueOf? circuit with
  | some output =>
    some (.ok output, session.report [.cacheHit circuit.id backend.target.name])
  | .none =>
    let opened := session.report [.opened circuit.id backend.target.name]
    match (backend.pipeline circuit).runWith calls opened with
    | .none => .none
    | some (result, ended) =>
      some (ended.conclude session.compiler.ledger.checkpoint circuit result)

/-- Applies the rule of a kind to a node, where the rule runs with given answers. -/
def applyWith {target : Target} (calls : Calls κ target) (category : Category) (kind : κ)
    (node : Node κ) (announced : Bool) (session : Session κ target) :
    Run κ target (target.Value category) :=
  match (session.compiler.rules.registry category).find kind with
  | .error error => some (.error (.registry error), session)
  | .ok rule =>
    (rule node).runWith calls
      (if announced then session.report [.compiling category kind] else session)

/-- The answers when scripts may call each other to a depth. -/
def within (backend : Backend κ) : Nat → Calls κ backend.target
  | 0 => none
  | depth + 1 =>
    { compile := fun circuit session =>
        compileWith backend (within backend depth) circuit session
      apply := fun category kind node announced session =>
        applyWith (within backend depth) category kind node announced session }

end Calls

namespace Session

variable {κ : Type} [Vocabulary κ] {α : Type}

/-- Runs a script whose calls may nest to a depth. -/
def perform (backend : Backend κ) (depth : Nat) (script : Script κ backend.target α)
    (session : Session κ backend.target) : Run κ backend.target α :=
  script.runWith (.within backend depth) session

end Session

end Circuitry
