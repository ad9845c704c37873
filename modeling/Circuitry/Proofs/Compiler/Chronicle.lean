import Circuitry.Proofs.Compiler.Moments

/-!
# Chronicles

The chronicle of a run lists its deeds in the order in which they were done: the requests that run
no further script, and the compilations, each at the moment when it is answered.  The deeds of
nested pipelines and rules stand in it before the compilation that they belong to.  So it tells, for
every moment of the run, what has been given out before.
-/

namespace Circuitry

/-- A compilation that has been answered. -/
structure Compilation (κ : Type) [Vocabulary κ] (target : Target) where
  /-- The depth to which the calls of its pipeline may nest. -/
  depth : Nat
  circuit : Circuit κ
  before : Session κ target
  /-- What the pipeline has returned; nothing if the ledger had the answer. -/
  result : Option (Except (Failure κ target) target.Output)
  answer : Except (Failure κ target) target.Output
  after : Session κ target

/-- Something that a run does, with the session after it. -/
inductive Deed (κ : Type) [Vocabulary κ] (target : Target)
  | compilation (call : Compilation κ target)
  | registration (circuit : Circuit κ) (output : target.Output) (after : Session κ target)
  /-- Another request that runs no further script. -/
  | request (after : Session κ target)

variable {κ : Type} [Vocabulary κ] {target : Target} {α β : Type}

namespace Deed

def after : Deed κ target → Session κ target
  | compilation call => call.after
  | registration _ _ after => after
  | request after => after

def returned? : Deed κ target → Option target.Output
  | compilation call => call.answer.toOption
  | _ => none

/-- The output that the pipeline of a compilation has made. -/
def made? : Deed κ target → Option target.Output
  | compilation call => call.result.bind Except.toOption
  | _ => none

/-- The output that is handed over to be registered. -/
def registered? : Deed κ target → Option target.Output
  | registration _ output _ => some output
  | _ => none

/-- The outputs that compilations have answered with. -/
def returned (deeds : List (Deed κ target)) : List target.Output :=
  deeds.filterMap returned?

/-- The outputs that completed pipelines have made. -/
def made (deeds : List (Deed κ target)) : List target.Output :=
  deeds.filterMap made?

/-- Every output that is handed over to be registered is known, or has been returned before. -/
def Orderly (known : List target.Output) : List (Deed κ target) → Prop
  | [] => True
  | deed :: later =>
    (∀ output, deed.registered? = some output → output ∈ known) ∧
      Orderly (known ++ deed.returned?.toList) later

theorem returned_cons (deed : Deed κ target) (later : List (Deed κ target)) :
    returned (deed :: later) = deed.returned?.toList ++ returned later := by
  unfold returned
  rw [List.filterMap_cons]
  cases deed.returned? <;> rfl

theorem returned_append (deeds later : List (Deed κ target)) :
    returned (deeds ++ later) = returned deeds ++ returned later :=
  List.filterMap_append

theorem made_append (deeds later : List (Deed κ target)) :
    made (deeds ++ later) = made deeds ++ made later :=
  List.filterMap_append

theorem orderly_append {known : List target.Output} {deeds later : List (Deed κ target)} :
    Orderly known (deeds ++ later) ↔
      Orderly known deeds ∧ Orderly (known ++ returned deeds) later := by
  induction deeds generalizing known with
  | nil => simp [Orderly, returned]
  | cons deed rest inductionHypothesis =>
      rw [List.cons_append, Orderly, Orderly, inductionHypothesis, returned_cons,
        List.append_assoc, and_assoc]

theorem orderly_of_unregistered {known : List target.Output} {deeds : List (Deed κ target)}
    (unregistered : deeds.all (fun deed => deed.registered?.isNone) = true) :
    Orderly known deeds := by
  induction deeds generalizing known with
  | nil => trivial
  | cons deed rest inductionHypothesis =>
      rw [List.all_cons, Bool.and_eq_true] at unregistered
      refine ⟨fun output same => ?_, inductionHypothesis unregistered.2⟩
      rw [Option.isNone_iff_eq_none.mp unregistered.1] at same
      cases same

end Deed

/-- The deeds of the requests that run further scripts. -/
structure Chronicler (κ : Type) [Vocabulary κ] (target : Target) where
  compile : Circuit κ → Session κ target → List (Deed κ target)
  apply : Category → κ → Node κ → Bool → Session κ target → List (Deed κ target)

/-- The deeds of a script, given the answers and the deeds of the requests that run further
scripts. -/
def Script.chronicle (calls : Calls κ target) (nested : Chronicler κ target) {α : Type}
    (script : Script κ target α) (session : Session κ target) : List (Deed κ target) :=
  match script with
  | .done _ => []
  | .compiling circuit next =>
    nested.compile circuit session ++
      match calls.compile circuit session with
      | none => []
      | some (answer, later) => (next answer).chronicle calls nested later
  | .registering circuit output next =>
    let (answer, later) := session.register circuit output
    .registration circuit output later :: (next answer).chronicle calls nested later
  | .applying category kind node announced next =>
    nested.apply category kind node announced session ++
      match calls.apply category kind node announced session with
      | none => []
      | some (answer, later) => (next answer).chronicle calls nested later
  | .addingRule category kind body next =>
    let (answer, later) := session.addRule category kind (Rule.ofKind kind body)
    .request later :: (next answer).chronicle calls nested later
  | .viewing next =>
    .request session :: (next session.compiler.view).chronicle calls nested session
  | .updating change next =>
    .request (session.update change) :: next.chronicle calls nested (session.update change)
  | .noting message details next =>
    let later := session.report [.note message details]
    .request later :: next.chronicle calls nested later
  | .counting rule tag next =>
    let (earlier, later) := session.countInvocation rule tag
    .request later :: (next earlier).chronicle calls nested later
  | .finishing builder outputs next =>
    let (answer, later) := session.finishCircuit builder outputs
    .request later :: (next answer).chronicle calls nested later

/-- The deed of a script's first request, given the session after it. -/
def Script.firstDeed (script : Script κ target α) (later : Session κ target) : Deed κ target :=
  match script with
  | .registering circuit output _ => .registration circuit output later
  | _ => .request later

section Script

variable {calls : Calls κ target} {nested : Chronicler κ target}
  {session later : Session κ target}

theorem Script.after_firstDeed (script : Script κ target α) :
    (script.firstDeed later).after = later := by
  cases script <;> rfl

theorem Script.returned?_firstDeed (script : Script κ target α) :
    (script.firstDeed later).returned? = none := by
  cases script <;> rfl

theorem Script.made?_firstDeed (script : Script κ target α) :
    (script.firstDeed later).made? = none := by
  cases script <;> rfl

theorem Script.chronicle_of_request {script rest : Script κ target α}
    (requested : script.afterRequest? session = some (rest, later)) :
    script.chronicle calls nested session =
      script.firstDeed later :: rest.chronicle calls nested later := by
  cases script <;> simp only [Script.afterRequest?, Option.some.injEq, Prod.mk.injEq,
    reduceCtorEq] at requested <;> obtain ⟨rfl, rfl⟩ := requested <;> rfl

theorem Script.chronicle_compiling {circuit : Circuit κ}
    {next : Except (Failure κ target) target.Output → Script κ target α}
    {answer : Except (Failure κ target) target.Output}
    (compiled : calls.compile circuit session = some (answer, later)) :
    (Script.compiling circuit next).chronicle calls nested session =
      nested.compile circuit session ++ (next answer).chronicle calls nested later := by
  rw [Script.chronicle, compiled]

theorem Script.chronicle_applying {category : Category} {kind : κ} {node : Node κ}
    {announced : Bool}
    {next : Except (Failure κ target) (target.Value category) → Script κ target α}
    {answer : Except (Failure κ target) (target.Value category)}
    (applied : calls.apply category kind node announced session = some (answer, later)) :
    (Script.applying category kind node announced next).chronicle calls nested session =
      nested.apply category kind node announced session ++
        (next answer).chronicle calls nested later := by
  rw [Script.chronicle, applied]

theorem Script.afterRequest?_bind {script rest : Script κ target α}
    (next : α → Script κ target β)
    (requested : script.afterRequest? session = some (rest, later)) :
    (script.bind next).afterRequest? session = some (rest.bind next, later) ∧
      (script.bind next).firstDeed later = script.firstDeed later := by
  cases script <;> simp only [Script.afterRequest?, Option.some.injEq, Prod.mk.injEq,
    reduceCtorEq] at requested <;> obtain ⟨rfl, rfl⟩ := requested <;> exact ⟨rfl, rfl⟩

/-- The deeds of the script that follows a value; none follow an error. -/
def Script.chronicleAfter (calls : Calls κ target) (nested : Chronicler κ target)
    (next : α → Script κ target β) (later : Session κ target) :
    Except (Failure κ target) α → List (Deed κ target)
  | .ok value => (next value).chronicle calls nested later
  | .error _ => []

/-- The deeds of a sequence of scripts are those of the first and then those of the second. -/
theorem Script.chronicle_bind (nested : Chronicler κ target) {first : Script κ target α}
    (next : α → Script κ target β) {outcome : Except (Failure κ target) α}
    (ran : first.runWith calls session = some (outcome, later)) :
    (first.bind next).chronicle calls nested session =
      first.chronicle calls nested session ++
        Script.chronicleAfter calls nested next later outcome := by
  refine Script.run_induction
    (motive := fun (first : Script κ target α) session outcome later =>
      (first.bind next).chronicle calls nested session =
        first.chronicle calls nested session ++
          Script.chronicleAfter calls nested next later outcome)
    ?done ?request ?compiling ?applying first ran
  case done =>
    intro outcome session
    cases outcome <;> rfl
  case request =>
    intro script rest session later outcome ended requested inductionHypothesis
    obtain ⟨requestedBind, sameDeed⟩ := Script.afterRequest?_bind next requested
    rw [Script.chronicle_of_request requestedBind, Script.chronicle_of_request requested, sameDeed,
      inductionHypothesis, List.cons_append]
  case compiling =>
    intro circuit rest session answer later outcome ended compiled inductionHypothesis
    rw [Script.bind, Script.chronicle_compiling compiled, Script.chronicle_compiling compiled,
      inductionHypothesis, List.append_assoc]
  case applying =>
    intro category kind node announced rest session answer later outcome ended applied
      inductionHypothesis
    rw [Script.bind, Script.chronicle_applying applied, Script.chronicle_applying applied,
      inductionHypothesis, List.append_assoc]

end Script

/-! ## Chronicles of compilers -/

/-- The deeds of a compilation, the compilation itself the last. -/
def Chronicler.compileWith (backend : Backend κ) (depth : Nat)
    (nested : Chronicler κ backend.target) (circuit : Circuit κ)
    (session : Session κ backend.target) : List (Deed κ backend.target) :=
  match session.compiler.ledger.valueOf? circuit with
  | some output =>
    [.compilation
      ⟨depth, circuit, session, none, .ok output,
        session.report [.cacheHit circuit.id backend.target.name]⟩]
  | none =>
    let opened := session.openRun backend circuit
    (backend.pipeline circuit).chronicle (.within backend depth) nested opened ++
      match (backend.pipeline circuit).runWith (.within backend depth) opened with
      | none => []
      | some (result, ended) =>
        let (answer, after) :=
          ended.conclude session.compiler.ledger.checkpoint circuit result
        [.compilation ⟨depth, circuit, session, some result, answer, after⟩]

/-- The deeds of the rule of a kind when it is applied to a node. -/
def Chronicler.applyWith (calls : Calls κ target) (nested : Chronicler κ target)
    (category : Category) (kind : κ) (node : Node κ) (announced : Bool)
    (session : Session κ target) : List (Deed κ target) :=
  match (session.compiler.rules.registry category).find kind with
  | .error _ => []
  | .ok rule =>
    (rule node).chronicle calls nested
      (if announced then session.report [.compiling category kind] else session)

/-- The deeds when scripts may call each other to a depth. -/
def Chronicler.within (backend : Backend κ) : Nat → Chronicler κ backend.target
  | 0 =>
    { compile := fun _ _ => []
      apply := fun _ _ _ _ _ => [] }
  | depth + 1 =>
    { compile := Chronicler.compileWith backend depth (Chronicler.within backend depth)
      apply := Chronicler.applyWith (.within backend depth) (Chronicler.within backend depth) }

/-- The deeds of a script whose calls may nest to a depth. -/
def Session.chronicle (backend : Backend κ) (depth : Nat) (script : Script κ backend.target α)
    (session : Session κ backend.target) : List (Deed κ backend.target) :=
  script.chronicle (.within backend depth) (.within backend depth) session

section Backend

variable {backend : Backend κ} {depth : Nat} {circuit : Circuit κ}
  {session : Session κ backend.target}

theorem Chronicler.compile_of_found {output : backend.target.Output}
    (found : session.compiler.ledger.valueOf? circuit = some output) :
    (Chronicler.within backend (depth + 1)).compile circuit session =
      [.compilation
        ⟨depth, circuit, session, none, .ok output,
          session.report [.cacheHit circuit.id backend.target.name]⟩] := by
  change Chronicler.compileWith backend depth _ circuit session = _
  unfold Chronicler.compileWith
  rw [found]

theorem Chronicler.compile_of_missing
    (missing : session.compiler.ledger.valueOf? circuit = none)
    {result : Except (Failure κ backend.target) backend.target.Output}
    {ended : Session κ backend.target}
    (ran : (backend.pipeline circuit).runWith (.within backend depth)
      (session.openRun backend circuit) = some (result, ended)) :
    (Chronicler.within backend (depth + 1)).compile circuit session =
      (session.openRun backend circuit).chronicle backend depth (backend.pipeline circuit) ++
        [.compilation
          ⟨depth, circuit, session, some result,
            (ended.conclude session.compiler.ledger.checkpoint circuit result).1,
            (ended.conclude session.compiler.ledger.checkpoint circuit result).2⟩] := by
  change Chronicler.compileWith backend depth _ circuit session = _
  unfold Chronicler.compileWith
  simp only [missing, ran]
  rfl

theorem Chronicler.apply_of_missing {category : Category} {kind : κ} {node : Node κ}
    {announced : Bool} {error : RegistryError κ}
    (missing : (session.compiler.rules.registry category).find kind = .error error) :
    (Chronicler.within backend (depth + 1)).apply category kind node announced session = [] := by
  change Chronicler.applyWith _ _ category kind node announced session = _
  unfold Chronicler.applyWith
  rw [missing]

theorem Chronicler.apply_of_found {category : Category} {kind : κ} {node : Node κ}
    {announced : Bool} {rule : Rule κ backend.target category}
    (found : (session.compiler.rules.registry category).find kind = .ok rule) :
    (Chronicler.within backend (depth + 1)).apply category kind node announced session =
      (if announced then session.report [.compiling category kind] else session).chronicle
        backend depth (rule node) := by
  change Chronicler.applyWith _ _ category kind node announced session = _
  unfold Chronicler.applyWith
  rw [found]
  rfl

end Backend

end Circuitry
