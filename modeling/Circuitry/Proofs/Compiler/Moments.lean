import Circuitry.Compiler
import Mathlib.Logic.Relation

/-!
# The moments of a run

A run of a script passes through moments: a script that is left, a session, and a depth to which
calls may still nest.  A moment leads to the next one by a single request, by entering the pipeline
or the rule that a request asks for, or by passing over such a request with its answer.  The moments
of nested calls are therefore moments of the outer run, whether or not that run ever ends.

A relation between sessions that every request keeps holds along whole runs and between all their
moments.  The hard work of an invariant of runs is thereby one statement about each request and one
about the end of a pipeline.
-/

namespace Circuitry

variable {κ : Type} [Vocabulary κ] {target : Target} {α : Type}

/-- What is left of a script after its first request and the session then.  There is none when the
script is done or its first request runs another script. -/
def Script.afterRequest? (script : Script κ target α) (session : Session κ target) :
    Option (Script κ target α × Session κ target) :=
  match script with
  | .done _ => none
  | .compiling _ _ => none
  | .applying _ _ _ _ _ => none
  | .registering circuit output next =>
    let (answer, later) := session.register circuit output
    some (next answer, later)
  | .addingRule category kind body next =>
    let (answer, later) := session.addRule category kind (Rule.ofKind kind body)
    some (next answer, later)
  | .viewing next => some (next session.compiler.view, session)
  | .updating change next => some (next, session.update change)
  | .noting message details next => some (next, session.report [.note message details])
  | .counting rule tag next =>
    let (earlier, later) := session.countInvocation rule tag
    some (next earlier, later)
  | .finishing builder outputs next =>
    let (answer, later) := session.finishCircuit builder outputs
    some (next answer, later)

/-- A relation that leads from every session to what a single request makes of it. -/
structure Session.Kept (relation : Session κ target → Session κ target → Prop) : Prop where
  refl : ∀ session, relation session session
  trans : ∀ {first second third},
    relation first second → relation second third → relation first third
  register : ∀ session circuit output, relation session (session.register circuit output).2
  addRule : ∀ session category kind rule, relation session (session.addRule category kind rule).2
  update : ∀ session change, relation session (session.update change)
  report : ∀ session events, relation session (session.report events)
  countInvocation : ∀ session rule tag, relation session (session.countInvocation rule tag).2
  finishCircuit : ∀ session builder outputs,
    relation session (session.finishCircuit builder outputs).2

variable {relation : Session κ target → Session κ target → Prop}

theorem Session.Kept.afterRequest? (kept : Session.Kept relation)
    {script rest : Script κ target α} {session later : Session κ target}
    (requested : script.afterRequest? session = some (rest, later)) :
    relation session later := by
  cases script <;> simp only [Script.afterRequest?, Option.some.injEq, Prod.mk.injEq,
    reduceCtorEq] at requested <;> obtain ⟨-, rfl⟩ := requested
  case registering => exact kept.register ..
  case addingRule => exact kept.addRule ..
  case viewing => exact kept.refl _
  case updating => exact kept.update ..
  case noting => exact kept.report ..
  case counting => exact kept.countInvocation ..
  case finishing => exact kept.finishCircuit ..

/-! ## Whole runs -/

/-- The requests that run further scripts keep a relation too. -/
structure Calls.Keep (calls : Calls κ target)
    (relation : Session κ target → Session κ target → Prop) : Prop where
  compile : ∀ {circuit session answer later},
    calls.compile circuit session = some (answer, later) → relation session later
  apply : ∀ {category kind node announced session answer later},
    calls.apply category kind node announced session = some (answer, later) →
      relation session later

/-- What holds of finished scripts, and passes back over each request to what precedes it, holds of
every run. -/
theorem Script.run_induction {calls : Calls κ target}
    {motive : Script κ target α → Session κ target → Except (Failure κ target) α →
      Session κ target → Prop}
    (done : ∀ outcome session, motive (.done outcome) session outcome session)
    (request : ∀ {script rest session later outcome ended},
      script.afterRequest? session = some (rest, later) →
        motive rest later outcome ended → motive script session outcome ended)
    (compiling : ∀ {circuit next session answer later outcome ended},
      calls.compile circuit session = some (answer, later) →
        motive (next answer) later outcome ended →
          motive (.compiling circuit next) session outcome ended)
    (applying : ∀ {category kind node announced next session answer later outcome ended},
      calls.apply category kind node announced session = some (answer, later) →
        motive (next answer) later outcome ended →
          motive (.applying category kind node announced next) session outcome ended)
    (script : Script κ target α) :
    ∀ {session ended : Session κ target} {outcome : Except (Failure κ target) α},
      script.runWith calls session = some (outcome, ended) →
        motive script session outcome ended := by
  induction script with
  | done outcome =>
      intro session ended outcome ran
      cases ran
      exact done _ _
  | compiling circuit next inductionHypothesis =>
      intro session ended outcome ran
      unfold Script.runWith at ran
      split at ran
      · contradiction
      · next answer later compiled =>
          exact compiling compiled (inductionHypothesis answer done request compiling applying ran)
  | applying category kind node announced next inductionHypothesis =>
      intro session ended outcome ran
      unfold Script.runWith at ran
      split at ran
      · contradiction
      · next answer later applied =>
          exact applying applied (inductionHypothesis answer done request compiling applying ran)
  | registering circuit output next inductionHypothesis =>
      intro session ended outcome ran
      exact request rfl (inductionHypothesis _ done request compiling applying ran)
  | addingRule category kind body next _ inductionHypothesis =>
      intro session ended outcome ran
      exact request rfl (inductionHypothesis _ done request compiling applying ran)
  | viewing next inductionHypothesis =>
      intro session ended outcome ran
      exact request rfl (inductionHypothesis _ done request compiling applying ran)
  | updating change next inductionHypothesis =>
      intro session ended outcome ran
      exact request rfl (inductionHypothesis done request compiling applying ran)
  | noting message details next inductionHypothesis =>
      intro session ended outcome ran
      exact request rfl (inductionHypothesis done request compiling applying ran)
  | counting rule tag next inductionHypothesis =>
      intro session ended outcome ran
      exact request rfl (inductionHypothesis _ done request compiling applying ran)
  | finishing builder outputs next inductionHypothesis =>
      intro session ended outcome ran
      exact request rfl (inductionHypothesis _ done request compiling applying ran)

theorem Session.Kept.runWith (kept : Session.Kept relation)
    {calls : Calls κ target} (keep : calls.Keep relation) (script : Script κ target α)
    {session later : Session κ target} {outcome : Except (Failure κ target) α}
    (ran : script.runWith calls session = some (outcome, later)) : relation session later := by
  refine Script.run_induction
    (motive := fun (_ : Script κ target α) session _ ended => relation session ended)
    ?done ?request ?compiling ?applying script ran
  case done => exact fun _ session => kept.refl session
  case request => exact fun requested rest => kept.trans (kept.afterRequest? requested) rest
  case compiling => exact fun compiled rest => kept.trans (keep.compile compiled) rest
  case applying => exact fun applied rest => kept.trans (keep.apply applied) rest

theorem Script.runWith_compiling {calls : Calls κ target} {circuit : Circuit κ}
    (next : Except (Failure κ target) target.Output → Script κ target α)
    {session later : Session κ target} {answer : Except (Failure κ target) target.Output}
    (compiled : calls.compile circuit session = some (answer, later)) :
    (Script.compiling circuit next).runWith calls session = (next answer).runWith calls later := by
  rw [Script.runWith, compiled]

theorem Script.runWith_applying {calls : Calls κ target} {category : Category} {kind : κ}
    {node : Node κ} {announced : Bool}
    (next : Except (Failure κ target) (target.Value category) → Script κ target α)
    {session later : Session κ target} {answer : Except (Failure κ target) (target.Value category)}
    (applied : calls.apply category kind node announced session = some (answer, later)) :
    (Script.applying category kind node announced next).runWith calls session =
      (next answer).runWith calls later := by
  rw [Script.runWith, applied]

theorem Script.runWith_bind_ok {β : Type} {calls : Calls κ target} {first : Script κ target α}
    {next : α → Script κ target β} {session later : Session κ target} {value : β}
    (ended : (first >>= next).runWith calls session = some (.ok value, later)) :
    ∃ passed middle, first.runWith calls session = some (.ok passed, middle) ∧
      (next passed).runWith calls middle = some (.ok value, later) := by
  rw [Script.bind_eq, Script.runWith_bind] at ended
  split at ended
  · contradiction
  · next passed middle ran => exact ⟨passed, middle, ran, ended⟩
  · cases ended

theorem Script.runWith_bind_of_ok {β : Type} {calls : Calls κ target} {first : Script κ target α}
    (next : α → Script κ target β) {session later : Session κ target} {value : α}
    (ran : first.runWith calls session = some (.ok value, later)) :
    (first >>= next).runWith calls session = (next value).runWith calls later := by
  rw [Script.bind_eq, Script.runWith_bind, ran]

theorem Script.runWith_ofExcept_ok {calls : Calls κ target}
    {outcome : Except (Failure κ target) α} {session later : Session κ target} {value : α}
    (ended : (Script.ofExcept outcome).runWith calls session = some (.ok value, later)) :
    outcome = .ok value ∧ later = session := by
  unfold Script.ofExcept Script.runWith at ended
  rw [Option.some.injEq, Prod.mk.injEq] at ended
  exact ⟨ended.1, ended.2.symm⟩

theorem Script.runWith_compileNode (calls : Calls κ target) (category : Category) (node : Node κ)
    (session : Session κ target) :
    (Script.compileNode category node).runWith calls session =
      calls.apply category node.kind node true session := by
  unfold Script.compileNode Script.runWith
  cases calls.apply category node.kind node true session <;> rfl

section Backend

variable {backend : Backend κ}
  {relation : Session κ backend.target → Session κ backend.target → Prop}

theorem Session.perform_compile (backend : Backend κ) (depth : Nat) (circuit : Circuit κ)
    (session : Session κ backend.target) :
    session.perform backend depth (Script.compile circuit) =
      (Calls.within backend depth).compile circuit session := by
  unfold Session.perform Script.compile Script.runWith
  cases (Calls.within backend depth).compile circuit session <;> rfl

/-- The session in which the pipeline for a circuit starts. -/
def Session.openRun (backend : Backend κ) (session : Session κ backend.target)
    (circuit : Circuit κ) : Session κ backend.target :=
  session.report [.opened circuit.id backend.target.name]

theorem Calls.compileWith_of_found
    (calls : Calls κ backend.target) {circuit : Circuit κ} {session : Session κ backend.target}
    {output : backend.target.Output}
    (found : session.compiler.ledger.valueOf? circuit = some output) :
    Calls.compileWith backend calls circuit session =
      some (.ok output, session.report [.cacheHit circuit.id backend.target.name]) := by
  unfold Calls.compileWith
  rw [found]

/-- A compilation that is not answered from the ledger runs the pipeline and concludes with its
result. -/
theorem Calls.compileWith_of_missing
    (calls : Calls κ backend.target) {circuit : Circuit κ} {session : Session κ backend.target}
    (missing : session.compiler.ledger.valueOf? circuit = .none)
    {answer : Except (Failure κ backend.target) backend.target.Output}
    {later : Session κ backend.target}
    (compiled : Calls.compileWith backend calls circuit session = some (answer, later)) :
    ∃ result ended,
      (backend.pipeline circuit).runWith calls (session.openRun backend circuit) =
          some (result, ended) ∧
        ended.conclude session.compiler.ledger.checkpoint circuit result = (answer, later) := by
  unfold Calls.compileWith at compiled
  rw [missing] at compiled
  simp only at compiled
  split at compiled
  · contradiction
  · next result ended run =>
      exact ⟨result, ended, run, Option.some.inj compiled⟩

theorem Calls.compileWith_of_ran
    (calls : Calls κ backend.target) {circuit : Circuit κ} {session : Session κ backend.target}
    (missing : session.compiler.ledger.valueOf? circuit = .none)
    {result : Except (Failure κ backend.target) backend.target.Output}
    {ended : Session κ backend.target}
    (ran : (backend.pipeline circuit).runWith calls (session.openRun backend circuit) =
      some (result, ended)) :
    Calls.compileWith backend calls circuit session =
      some (ended.conclude session.compiler.ledger.checkpoint circuit result) := by
  unfold Session.openRun at ran
  unfold Calls.compileWith
  simp only [missing, ran]

/-- The application of a rule is refused because there is none, or it is a run of the rule. -/
theorem Calls.apply_cases {depth : Nat} {category : Category} {kind : κ} {node : Node κ}
    {announced : Bool} {session later : Session κ backend.target}
    {answer : Except (Failure κ backend.target) (backend.target.Value category)}
    (applied : (Calls.within backend (depth + 1)).apply category kind node announced session =
      some (answer, later)) :
    (∃ error, (session.compiler.rules.registry category).find kind = .error error ∧
      answer = .error (.registry error) ∧ later = session) ∨
    ∃ rule, (session.compiler.rules.registry category).find kind = .ok rule ∧
      (rule node).runWith (.within backend depth)
          (if announced then session.report [.compiling category kind] else session) =
        some (answer, later) := by
  change Calls.applyWith _ category kind node announced session = _ at applied
  unfold Calls.applyWith at applied
  split at applied
  · next error missing =>
      cases applied
      exact Or.inl ⟨error, missing, rfl, rfl⟩
  · next rule found => exact Or.inr ⟨rule, found, applied⟩

/-- What the end of a pipeline has to show so that a relation is kept by compilations. -/
def Session.Concludes (backend : Backend κ)
    (relation : Session κ backend.target → Session κ backend.target → Prop) : Prop :=
  ∀ {session ended : Session κ backend.target} (circuit : Circuit κ)
    (result : Except (Failure κ backend.target) backend.target.Output),
    relation session ended →
      relation session (ended.conclude session.compiler.ledger.checkpoint circuit result).2

theorem Session.Kept.within (kept : Session.Kept relation)
    (concludes : Session.Concludes backend relation) :
    ∀ depth, (Calls.within backend depth).Keep relation
  | 0 =>
    { compile := fun compiled => by cases compiled
      apply := fun applied => by cases applied }
  | depth + 1 => by
    have inner := kept.within concludes depth
    refine { compile := ?_, apply := ?_ }
    · intro circuit session answer later compiled
      change Calls.compileWith backend _ circuit session = _ at compiled
      cases found : session.compiler.ledger.valueOf? circuit with
      | some output =>
          rw [Calls.compileWith_of_found _ found] at compiled
          cases compiled
          exact kept.report ..
      | none =>
          obtain ⟨result, ended, run, concluded⟩ := Calls.compileWith_of_missing _ found compiled
          have reached := kept.trans (kept.report session _) (kept.runWith inner _ run)
          have closed := concludes circuit result reached
          rw [concluded] at closed
          exact closed
    · intro category kind node announced session answer later applied
      obtain ⟨error, -, -, rfl⟩ | ⟨rule, -, ran⟩ := Calls.apply_cases applied
      · exact kept.refl _
      · refine kept.trans ?_ (kept.runWith inner _ ran)
        split
        · exact kept.report ..
        · exact kept.refl _

/-- A kept relation holds from the beginning to the end of every run. -/
theorem Session.Kept.perform (kept : Session.Kept relation)
    (concludes : Session.Concludes backend relation)
    {depth : Nat} {script : Script κ backend.target α} {session later : Session κ backend.target}
    {outcome : Except (Failure κ backend.target) α}
    (performed : session.perform backend depth script = some (outcome, later)) :
    relation session later :=
  kept.runWith (kept.within concludes depth) script performed

end Backend

/-! ## Moments -/

/-- A script that is left to run in a session, where calls may nest to a depth. -/
structure Moment (backend : Backend κ) where
  depth : Nat
  {Result : Type}
  script : Script κ backend.target Result
  session : Session κ backend.target

namespace Moment

variable {backend : Backend κ}

/-- One moment of a run comes directly after another. -/
inductive Next : Moment backend → Moment backend → Prop
  | request {Result : Type} {depth : Nat} {script rest : Script κ backend.target Result}
      {session later : Session κ backend.target} :
      script.afterRequest? session = some (rest, later) →
      Next ⟨depth, script, session⟩ ⟨depth, rest, later⟩
  | enterPipeline {Result : Type} {depth : Nat} {circuit : Circuit κ}
      {next : Except (Failure κ backend.target) backend.target.Output →
        Script κ backend.target Result}
      {session : Session κ backend.target} :
      session.compiler.ledger.valueOf? circuit = none →
      Next ⟨depth + 1, .compiling circuit next, session⟩
        ⟨depth, backend.pipeline circuit, session.openRun backend circuit⟩
  | passCompilation {Result : Type} {depth : Nat} {circuit : Circuit κ}
      {next : Except (Failure κ backend.target) backend.target.Output →
        Script κ backend.target Result}
      {session later : Session κ backend.target}
      {answer : Except (Failure κ backend.target) backend.target.Output} :
      (Calls.within backend depth).compile circuit session = some (answer, later) →
      Next ⟨depth, .compiling circuit next, session⟩ ⟨depth, next answer, later⟩
  | enterRule {Result : Type} {depth : Nat} {category : Category} {kind : κ} {node : Node κ}
      {announced : Bool}
      {next : Except (Failure κ backend.target) (backend.target.Value category) →
        Script κ backend.target Result}
      {rule : Rule κ backend.target category} {session : Session κ backend.target} :
      (session.compiler.rules.registry category).find kind = .ok rule →
      Next ⟨depth + 1, .applying category kind node announced next, session⟩
        ⟨depth, rule node, if announced then session.report [.compiling category kind] else session⟩
  | passRule {Result : Type} {depth : Nat} {category : Category} {kind : κ} {node : Node κ}
      {announced : Bool}
      {next : Except (Failure κ backend.target) (backend.target.Value category) →
        Script κ backend.target Result}
      {session later : Session κ backend.target}
      {answer : Except (Failure κ backend.target) (backend.target.Value category)} :
      (Calls.within backend depth).apply category kind node announced session =
        some (answer, later) →
      Next ⟨depth, .applying category kind node announced next, session⟩
        ⟨depth, next answer, later⟩

/-- One moment of a run comes before another, or is the same. -/
abbrev Reaches : Moment backend → Moment backend → Prop :=
  Relation.ReflTransGen Next

variable {relation : Session κ backend.target → Session κ backend.target → Prop}

theorem Next.related (kept : Session.Kept relation)
    (concludes : Session.Concludes backend relation) {moment later : Moment backend}
    (next : Next moment later) : relation moment.session later.session := by
  cases next with
  | request requested => exact kept.afterRequest? requested
  | enterPipeline missing => exact kept.report ..
  | passCompilation compiled => exact (kept.within concludes _).compile compiled
  | enterRule found =>
      dsimp only
      split
      · exact kept.report ..
      · exact kept.refl _
  | passRule applied => exact (kept.within concludes _).apply applied

/-- A kept relation holds between any two moments of a run. -/
theorem Reaches.related (kept : Session.Kept relation)
    (concludes : Session.Concludes backend relation) {moment later : Moment backend}
    (reaches : Reaches moment later) : relation moment.session later.session := by
  induction reaches with
  | refl => exact kept.refl _
  | tail _ next inductionHypothesis =>
      exact kept.trans inductionHypothesis (next.related kept concludes)

end Moment

end Circuitry
