import Circuitry.Error

/-!
Scripts: what a pipeline or a rule does with the compiler that runs it.

A script is a tree of requests.  Each request names one thing that the compiler offers, and what
follows may depend on the answer; a failed request hands its error on, so a script may give up or
carry on.  Rules are scripts that depend on a node, and a script may add rules.  Since scripts are
data, a statement about every pipeline and every rule is a statement about every script.
-/

namespace Circuitry

/-- What a backend makes: the values of nodes by category, the compiled circuits, and the state
that it keeps between compilations. -/
structure Target where
  /-- The name by which the backend is selected. -/
  name : String
  Value : Category → Type
  Output : Type
  State : Type
  /-- Compiled circuits are compared by this equality. -/
  same : BEq Output
  equivalence : @EquivBEq Output same
  /-- The outline of a compiled circuit. -/
  outline : Output → String

attribute [instance] Target.same

instance (target : Target) : EquivBEq target.Output := target.equivalence

/-- The errors of a compiler for a target. -/
abbrev Failure (κ : Type) (target : Target) : Type :=
  CompileError κ target.Output

/-- What a script can see of a compiler: everything but the rules themselves. -/
structure View (κ : Type) [Vocabulary κ] (target : Target) where
  state : target.State
  flags : Flags
  ledger : Ledger (Circuit κ) target.Output
  registries : Category → Registry κ Unit

/-- A tree of requests to a compiler that ends in a value or an error. -/
inductive Script (κ : Type) [Vocabulary κ] (target : Target) : Type → Type 1
  /-- Ends with a value or an error. -/
  | done {α : Type} (outcome : Except (Failure κ target) α) : Script κ target α
  /-- Asks for the compilation of a circuit. -/
  | compiling {α : Type} (circuit : Circuit κ)
      (next : Except (Failure κ target) target.Output → Script κ target α) : Script κ target α
  /-- Asks to register what a circuit is compiled to. -/
  | registering {α : Type} (circuit : Circuit κ) (output : target.Output)
      (next : Except (Failure κ target) Unit → Script κ target α) : Script κ target α
  /-- Asks to apply the rule of a kind to a node; an announced application is reported. -/
  | applying {α : Type} (category : Category) (kind : κ) (node : Node κ) (announced : Bool)
      (next : Except (Failure κ target) (target.Value category) → Script κ target α) :
      Script κ target α
  /-- Asks to add a rule for a kind. -/
  | addingRule {α : Type} (category : Category) (kind : κ)
      (body : Vocabulary.Payload kind → Script κ target (target.Value category))
      (next : Except (Failure κ target) Unit → Script κ target α) : Script κ target α
  /-- Asks what can be seen of the compiler. -/
  | viewing {α : Type} (next : View κ target → Script κ target α) : Script κ target α
  /-- Changes the state of the backend. -/
  | updating {α : Type} (change : target.State → target.State) (next : Script κ target α) :
      Script κ target α
  /-- Reports something. -/
  | noting {α : Type} (message : String) (details : List (String × Detail))
      (next : Script κ target α) : Script κ target α
  /-- Records an invocation of a rule and asks for the number of its earlier ones. -/
  | counting {α : Type} (rule : List Nat) (tag : String) (next : Nat → Script κ target α) :
      Script κ target α
  /-- Finishes a circuit, which takes the next identity. -/
  | finishing {α : Type} (builder : CircuitBuilder κ) (outputs : List Nat)
      (next : Except (BuildError κ) (Circuit κ) → Script κ target α) : Script κ target α

/-- A rule for a category of nodes: what to do with a node. -/
abbrev Rule (κ : Type) [Vocabulary κ] (target : Target) (category : Category) : Type 1 :=
  Node κ → Script κ target (target.Value category)

namespace Script

variable {κ : Type} [Vocabulary κ] {target : Target} {α β γ : Type}

/-- Continues a script with what its value says; an error stays. -/
def bind {α β : Type} (first : Script κ target α) (next : α → Script κ target β) :
    Script κ target β :=
  match first with
  | done (.ok value) => next value
  | done (.error error) => done (.error error)
  | compiling circuit rest => compiling circuit fun answer => (rest answer).bind next
  | registering circuit output rest =>
    registering circuit output fun answer => (rest answer).bind next
  | applying category kind node announced rest =>
    applying category kind node announced fun answer => (rest answer).bind next
  | addingRule category kind body rest =>
    addingRule category kind body fun answer => (rest answer).bind next
  | viewing rest => viewing fun answer => (rest answer).bind next
  | updating change rest => updating change (rest.bind next)
  | noting message details rest => noting message details (rest.bind next)
  | counting rule tag rest => counting rule tag fun answer => (rest answer).bind next
  | finishing builder outputs rest =>
    finishing builder outputs fun answer => (rest answer).bind next

instance : Monad (Script κ target) where
  pure value := done (.ok value)
  bind := bind

/-! ## Single requests -/

/-- Ends with an error. -/
def fail (error : Failure κ target) : Script κ target α :=
  done (.error error)

/-- Ends as a pure computation does. -/
def ofExcept (outcome : Except (Failure κ target) α) : Script κ target α :=
  done outcome

def compile (circuit : Circuit κ) : Script κ target target.Output :=
  compiling circuit done

/-- Registers what a circuit is compiled to. -/
def register (circuit : Circuit κ) (output : target.Output) : Script κ target Unit :=
  registering circuit output done

/-- Applies the rule for a node's own kind to the node. -/
def compileNode (category : Category) (node : Node κ) :
    Script κ target (target.Value category) :=
  applying category node.kind node true done

def addRule (category : Category) (kind : κ)
    (body : Vocabulary.Payload kind → Script κ target (target.Value category)) :
    Script κ target Unit :=
  addingRule category kind body done

/-- What can be seen of the compiler. -/
def view : Script κ target (View κ target) :=
  viewing fun seen => done (.ok seen)

/-- Changes the state of the backend. -/
def update (change : target.State → target.State) : Script κ target Unit :=
  updating change (done (.ok ()))

/-- Reports something. -/
def note (message : String) (details : List (String × Detail)) : Script κ target Unit :=
  noting message details (done (.ok ()))

/-- Records an invocation of a rule; gives the number of its earlier ones. -/
def countInvocation (rule : List Nat) (tag : String) : Script κ target Nat :=
  counting rule tag fun earlier => done (.ok earlier)

def finishCircuit (builder : CircuitBuilder κ) (outputs : List Nat) :
    Script κ target (Circuit κ) :=
  finishing builder outputs fun
    | .ok circuit => done (.ok circuit)
    | .error error => done (.error (.build error))

@[simp] theorem pure_eq (value : α) :
    (pure value : Script κ target α) = done (.ok value) := rfl

@[simp] theorem bind_eq (first : Script κ target α) (next : α → Script κ target β) :
    first >>= next = first.bind next := rfl

theorem bind_done (script : Script κ target α) :
    (script.bind fun value => done (.ok value)) = script := by
  induction script with
  | done outcome => cases outcome <;> rfl
  | compiling circuit next hypothesis => exact congrArg _ (funext hypothesis)
  | registering circuit output next hypothesis => exact congrArg _ (funext hypothesis)
  | applying category kind node announced next hypothesis => exact congrArg _ (funext hypothesis)
  | addingRule category kind body next _ hypothesis => exact congrArg _ (funext hypothesis)
  | viewing next hypothesis => exact congrArg _ (funext hypothesis)
  | updating change next hypothesis => exact congrArg _ hypothesis
  | noting message details next hypothesis => exact congrArg _ hypothesis
  | counting rule tag next hypothesis => exact congrArg _ (funext hypothesis)
  | finishing builder outputs next hypothesis => exact congrArg _ (funext hypothesis)

theorem bind_assoc (first : Script κ target α) (second : α → Script κ target β)
    (third : β → Script κ target γ) :
    (first.bind second).bind third = first.bind fun value => (second value).bind third := by
  induction first with
  | done outcome => cases outcome <;> rfl
  | compiling circuit next hypothesis =>
    exact congrArg _ (funext fun answer => hypothesis answer second)
  | registering circuit output next hypothesis =>
    exact congrArg _ (funext fun answer => hypothesis answer second)
  | applying category kind node announced next hypothesis =>
    exact congrArg _ (funext fun answer => hypothesis answer second)
  | addingRule category kind body next _ hypothesis =>
    exact congrArg _ (funext fun answer => hypothesis answer second)
  | viewing next hypothesis => exact congrArg _ (funext fun answer => hypothesis answer second)
  | updating change next hypothesis => exact congrArg _ (hypothesis second)
  | noting message details next hypothesis => exact congrArg _ (hypothesis second)
  | counting rule tag next hypothesis =>
    exact congrArg _ (funext fun answer => hypothesis answer second)
  | finishing builder outputs next hypothesis =>
    exact congrArg _ (funext fun answer => hypothesis answer second)

instance : LawfulMonad (Script κ target) := LawfulMonad.mk' (Script κ target)
  (fun script => bind_done script)
  (fun _ _ => rfl)
  (fun first second third => bind_assoc first second third)

end Script

/-- The rule that treats nodes of one kind and refuses every other node. -/
def Rule.ofKind {κ : Type} [Vocabulary κ] {target : Target} {category : Category} (kind : κ)
    (body : Vocabulary.Payload kind → Script κ target (target.Value category)) :
    Rule κ target category :=
  fun node =>
    match node.payloadAs? kind with
    | some payload => body payload
    | none => .fail (.kindMismatch kind node.kind)

/-- A target with the pipeline that compiles circuits for it. -/
structure Backend (κ : Type) [Vocabulary κ] where
  target : Target
  pipeline : Circuit κ → Script κ target target.Output

end Circuitry
