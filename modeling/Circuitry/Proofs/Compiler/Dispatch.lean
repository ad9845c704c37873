import Circuitry.Proofs.Compiler.EventLog
import Circuitry.Proofs.Compiler.Outcome
import Circuitry.Proofs.Compiler.Restraint
import Circuitry.Proofs.Compiler.Visits

/-!
# Dispatch

When a node is dispatched to its rule this is reported.  Rules that do not call the compiler back,
and of which it is settled at which nodes they succeed, leave a trail of such reports that depends
on the visits alone: it is cut after the first visit whose rule fails, or before the first one
without a rule, and the run fails with this visit.
-/

namespace Circuitry

variable {κ : Type} [Vocabulary κ] {target : Target} {α β : Type}

/-- A rule is about to be applied to a node. -/
def Event.isDispatch : Event κ → Bool
  | compiling _ _ => true
  | _ => false

def Session.dispatches (session : Session κ target) : List (Event κ) :=
  session.events.toList.filter Event.isDispatch

theorem Session.dispatches_report (session : Session κ target) (events : List (Event κ)) :
    (session.report events).dispatches =
      session.dispatches ++ events.filter Event.isDispatch := by
  unfold Session.dispatches Session.report
  rw [Array.toList_appendList, List.filter_append]

/-- What is reported when a visit is dispatched. -/
def Visit.event (visit : Visit κ) : Event κ :=
  .compiling visit.category visit.node.kind

/-- The visits that are dispatched: up to the first whose rule fails, and to none without a rule. -/
def dispatched (hasRule succeeds : Visit κ → Bool) : List (Visit κ) → List (Visit κ)
  | [] => []
  | visit :: rest =>
    if hasRule visit then
      if succeeds visit then visit :: dispatched hasRule succeeds rest else [visit]
    else []

/-- The first visit that does not succeed. -/
def culprit? (hasRule succeeds : Visit κ → Bool) (visits : List (Visit κ)) : Option (Visit κ) :=
  visits.find? fun visit => !(hasRule visit && succeeds visit)

/-- The compilers differ in the states of their backends at most, and that of the later one is
calm. -/
def Compiler.Drifts (calm : target.State → Prop) (compiler later : Compiler κ target) : Prop :=
  ∃ state, calm state ∧ later = { compiler with state := state }

def Compiler.hasRule (compiler : Compiler κ target) (visit : Visit κ) : Bool :=
  (compiler.rules.registry visit.category).contains visit.node.kind

/-- The script does not call the compiler back, and it is settled whether it succeeds: it does so,
or fails, whatever calm states it sees and whatever else it is told.  It keeps calm states calm. -/
inductive Script.Settles (compiler : Compiler κ target) (calm : target.State → Prop)
    (succeeds : Bool) : Script κ target α → Prop
  | done {outcome : Except (Failure κ target) α} :
      outcome.isOk = succeeds → Settles compiler calm succeeds (.done outcome)
  | viewing {next : View κ target → Script κ target α} :
      (∀ state, calm state →
        Settles compiler calm succeeds (next { compiler with state := state }.view)) →
      Settles compiler calm succeeds (.viewing next)
  | updating {change : target.State → target.State} {next : Script κ target α} :
      (∀ state, calm state → calm (change state)) → Settles compiler calm succeeds next →
      Settles compiler calm succeeds (.updating change next)
  | noting {message : String} {details : List (String × Detail)} {next : Script κ target α} :
      Settles compiler calm succeeds next →
      Settles compiler calm succeeds (.noting message details next)
  | counting {rule : List Nat} {tag : String} {next : Nat → Script κ target α} :
      (∀ earlier, Settles compiler calm succeeds (next earlier)) →
      Settles compiler calm succeeds (.counting rule tag next)
  | finishing {builder : CircuitBuilder κ} {outputs : List Nat}
      {next : Except (BuildError κ) (Circuit κ) → Script κ target α} :
      (∀ answer, Settles compiler calm succeeds (next answer)) →
      Settles compiler calm succeeds (.finishing builder outputs next)

/-- The rules of the compiler settle at which nodes they succeed. -/
def Compiler.Settles (compiler : Compiler κ target) (calm : target.State → Prop)
    (succeeds : Visit κ → Bool) : Prop :=
  ∀ (visit : Visit κ) (rule : Rule κ target visit.category),
    (compiler.rules.registry visit.category).find visit.node.kind = .ok rule →
      (rule visit.node).Settles compiler calm (succeeds visit)

section Settled

variable {compiler : Compiler κ target} {calm : target.State → Prop}

theorem Compiler.Drifts.update {session : Session κ target}
    (drifts : compiler.Drifts calm session.compiler) {change : target.State → target.State}
    (keeps : ∀ state, calm state → calm (change state)) :
    compiler.Drifts calm (session.update change).compiler := by
  obtain ⟨state, isCalm, same⟩ := drifts
  refine ⟨change state, keeps state isCalm, ?_⟩
  unfold Session.update
  rw [same]

theorem Script.Settles.runWith {script : Script κ target α} {succeeds : Bool}
    (settles : script.Settles compiler calm succeeds) (calls : Calls κ target) :
    ∀ session : Session κ target, compiler.Drifts calm session.compiler →
      ∃ outcome later, script.runWith calls session = some (outcome, later) ∧
        outcome.isOk = succeeds ∧ compiler.Drifts calm later.compiler ∧
        later.dispatches = session.dispatches := by
  induction settles with
  | done ends => exact fun session drifts => ⟨_, session, rfl, ends, drifts, rfl⟩
  | viewing _ inductionHypothesis =>
      intro session drifts
      obtain ⟨state, isCalm, same⟩ := drifts
      have later := inductionHypothesis state isCalm session ⟨state, isCalm, same⟩
      rw [← same] at later
      exact later
  | updating keeps _ inductionHypothesis =>
      exact fun session drifts => inductionHypothesis _ (drifts.update keeps)
  | @noting message details next _ inductionHypothesis =>
      intro session drifts
      obtain ⟨outcome, later, ran, ends, laterDrifts, same⟩ :=
        inductionHypothesis (session.report [.note message details]) drifts
      refine ⟨outcome, later, ran, ends, laterDrifts, same.trans ?_⟩
      rw [Session.dispatches_report]
      exact List.append_nil _
  | counting _ inductionHypothesis =>
      intro session drifts
      exact inductionHypothesis _ (session.countInvocation _ _).2 drifts
  | @finishing builder outputs next _ inductionHypothesis =>
      intro session drifts
      have unreported : (session.finishCircuit builder outputs).2.dispatches =
          session.dispatches := by
        unfold Session.finishCircuit
        split <;> rfl
      obtain ⟨outcome, later, ran, ends, laterDrifts, same⟩ :=
        inductionHypothesis (session.finishCircuit builder outputs).1
          (session.finishCircuit builder outputs).2
          (by rw [session.compiler_finishCircuit]; exact drifts)
      exact ⟨outcome, later, ran, ends, laterDrifts, same.trans unreported⟩

end Settled

theorem Registry.isOk_find {ρ : Type _} (registry : Registry κ ρ) (kind : κ) :
    (registry.find kind).isOk = registry.contains kind := by
  unfold Registry.find Registry.contains
  cases registry.rule? kind <;> rfl

/-! ## Visits -/

section Visits

variable {backend : Backend κ} {compiler : Compiler κ backend.target}
  {calm : backend.target.State → Prop} {succeeds : Visit κ → Bool} {depth : Nat}
  {session : Session κ backend.target}

/-- A visit succeeds when there is a rule and it does; it is reported when there is one. -/
theorem Compiler.Settles.visit (settles : compiler.Settles calm succeeds) (depth : Nat)
    (visit : Visit κ) (drifts : compiler.Drifts calm session.compiler) :
    ∃ answer later,
      (Calls.within backend (depth + 1)).visit visit session = some (answer, later) ∧
        answer.isOk = (compiler.hasRule visit && succeeds visit) ∧
        compiler.Drifts calm later.compiler ∧
        later.dispatches =
          session.dispatches ++ if compiler.hasRule visit then [visit.event] else [] := by
  obtain ⟨state, isCalm, same⟩ := drifts
  have sameRules : session.compiler.rules = compiler.rules := by rw [same]
  change ∃ answer later,
    Calls.applyWith _ visit.category visit.node.kind visit.node true session = _ ∧ _
  unfold Calls.applyWith
  rw [sameRules]
  cases found : (compiler.rules.registry visit.category).find visit.node.kind with
  | error error =>
      have noRule : compiler.hasRule visit = false := by
        rw [Compiler.hasRule, ← Registry.isOk_find, found]
        rfl
      rw [noRule]
      exact ⟨_, session, rfl, rfl, ⟨state, isCalm, same⟩, (List.append_nil _).symm⟩
  | ok rule =>
      have hasRule : compiler.hasRule visit = true := by
        rw [Compiler.hasRule, ← Registry.isOk_find, found]
        rfl
      obtain ⟨answer, later, ran, ends, drifts, unreported⟩ :=
        (settles visit rule found).runWith (.within backend depth)
          (session.report [visit.event]) ⟨state, isCalm, same⟩
      rw [hasRule]
      refine ⟨answer, later, ran, ends, drifts, unreported.trans ?_⟩
      rw [Session.dispatches_report]
      rfl

variable (backend) in
theorem Compiler.Settles.visit_of_succeeds (settles : compiler.Settles calm succeeds)
    (depth : Nat) {visit : Visit κ} (drifts : compiler.Drifts calm session.compiler)
    (hasRule : compiler.hasRule visit = true) (succeeded : succeeds visit = true) :
    ∃ value later,
      (Calls.within backend (depth + 1)).visit visit session = some (.ok value, later) ∧
        compiler.Drifts calm later.compiler ∧
        later.dispatches = session.dispatches ++ [visit.event] := by
  obtain ⟨answer, later, visited, ends, laterDrifts, reported⟩ :=
    settles.visit depth visit drifts
  rw [hasRule, succeeded] at ends
  rw [if_pos hasRule] at reported
  cases answer with
  | error error => cases ends
  | ok value => exact ⟨value, later, visited, laterDrifts, reported⟩

/-- The run from a moment has a value, or it ends with a visit. -/
def Moment.EndsAt (moment : Moment backend) (culprit? : Option (Visit κ))
    (outcome : Except (Failure κ backend.target) moment.Result)
    (ended : Session κ backend.target) : Prop :=
  match culprit? with
  | none => ∃ value, outcome = .ok value
  | some culprit => ∃ error, outcome = .error error ∧ moment.EndsWith culprit error ended

theorem Moment.EndsAt.of_next {Result : Type} {script rest : Script κ backend.target Result}
    {later ended : Session κ backend.target} {culprit? : Option (Visit κ)}
    {outcome : Except (Failure κ backend.target) Result}
    (next : Moment.Next (⟨depth, script, session⟩ : Moment backend) ⟨depth, rest, later⟩)
    (ends : Moment.EndsAt (⟨depth, rest, later⟩ : Moment backend) culprit? outcome ended) :
    Moment.EndsAt (⟨depth, script, session⟩ : Moment backend) culprit? outcome ended := by
  cases culprit? with
  | none => exact ends
  | some culprit =>
      obtain ⟨error, failed, endsWith⟩ := ends
      exact ⟨error, failed, endsWith.of_next next⟩

/-- The run from a moment leaves the trail of given visits, and ends at the first of them that does
not succeed. -/
structure Moment.Dispatches (moment : Moment backend) (compiler : Compiler κ backend.target)
    (calm : backend.target.State → Prop) (succeeds : Visit κ → Bool) (visits : List (Visit κ))
    (outcome : Except (Failure κ backend.target) moment.Result)
    (ended : Session κ backend.target) : Prop where
  ran : moment.session.perform backend moment.depth moment.script = some (outcome, ended)
  drifts : compiler.Drifts calm ended.compiler
  trail : ended.dispatches =
    moment.session.dispatches ++ (dispatched compiler.hasRule succeeds visits).map Visit.event
  ends : moment.EndsAt (culprit? compiler.hasRule succeeds visits) outcome ended

theorem Moment.Dispatches.exists_value {moment : Moment backend} {visits : List (Visit κ)}
    {outcome : Except (Failure κ backend.target) moment.Result} {ended : Session κ backend.target}
    (dispatches : moment.Dispatches compiler calm succeeds visits outcome ended)
    (all : culprit? compiler.hasRule succeeds visits = none) : ∃ value, outcome = .ok value := by
  have ends := dispatches.ends
  rw [all] at ends
  exact ends

theorem Moment.Dispatches.endsWith {moment : Moment backend} {visits : List (Visit κ)}
    {outcome : Except (Failure κ backend.target) moment.Result} {ended : Session κ backend.target}
    (dispatches : moment.Dispatches compiler calm succeeds visits outcome ended) {culprit : Visit κ}
    (first : culprit? compiler.hasRule succeeds visits = some culprit) :
    ∃ error, outcome = .error error ∧ moment.EndsWith culprit error ended := by
  have ends := dispatches.ends
  rw [first] at ends
  exact ends

theorem Script.runWith_of_request {calls : Calls κ target} {script rest : Script κ target α}
    {session later : Session κ target}
    (requested : script.afterRequest? session = some (rest, later)) :
    script.runWith calls session = rest.runWith calls later := by
  cases script <;> simp only [Script.afterRequest?, Option.some.injEq, Prod.mk.injEq,
    reduceCtorEq] at requested <;> obtain ⟨rfl, rfl⟩ := requested <;> rfl

/-- A step that reports no dispatch is passed over. -/
theorem Moment.Dispatches.of_request {Result : Type} {visits : List (Visit κ)}
    {script rest : Script κ backend.target Result} {later ended : Session κ backend.target}
    {outcome : Except (Failure κ backend.target) Result}
    (requested : script.afterRequest? session = some (rest, later))
    (unreported : later.dispatches = session.dispatches)
    (dispatches : Moment.Dispatches (⟨depth, rest, later⟩ : Moment backend) compiler calm succeeds
      visits outcome ended) :
    Moment.Dispatches (⟨depth, script, session⟩ : Moment backend) compiler calm succeeds visits
      outcome ended where
  ran := (Script.runWith_of_request requested).trans dispatches.ran
  drifts := dispatches.drifts
  trail := by rw [dispatches.trail, unreported]
  ends := dispatches.ends.of_next (.request requested)

/-- A visit that succeeds is reported, and what follows it runs on. -/
theorem Moment.Dispatches.of_visit {Result : Type} {visit : Visit κ} {visits : List (Visit κ)}
    {rest : Except (Failure κ backend.target) (backend.target.Value visit.category) →
      Script κ backend.target Result}
    {value : backend.target.Value visit.category} {later ended : Session κ backend.target}
    {outcome : Except (Failure κ backend.target) Result}
    (visited : (Calls.within backend (depth + 1)).visit visit session = some (.ok value, later))
    (passes : (compiler.hasRule visit && succeeds visit) = true)
    (reported : later.dispatches =
      session.dispatches ++ if compiler.hasRule visit then [visit.event] else [])
    (dispatches : Moment.Dispatches (⟨depth + 1, rest (.ok value), later⟩ : Moment backend) compiler
      calm succeeds visits outcome ended) :
    Moment.Dispatches (⟨depth + 1,
      .applying visit.category visit.node.kind visit.node true rest, session⟩ : Moment backend)
      compiler calm succeeds (visit :: visits) outcome ended where
  ran := (Script.runWith_applying rest visited).trans dispatches.ran
  drifts := dispatches.drifts
  trail := by
    obtain ⟨hasRule, succeeds⟩ := Bool.and_eq_true_iff.mp passes
    rw [dispatches.trail, reported, if_pos hasRule, dispatched, if_pos hasRule, if_pos succeeds,
      List.map_cons, List.append_assoc]
    rfl
  ends := by
    rw [culprit?, List.find?_cons_of_neg (by rw [passes]; exact Bool.false_ne_true)]
    exact dispatches.ends.of_next (.passRule visited)

/-- A visit that fails ends the run, and is reported when there is a rule. -/
theorem Moment.Dispatches.of_failed_visit {Result : Type} {visit : Visit κ}
    {visits : List (Visit κ)}
    {rest : Except (Failure κ backend.target) (backend.target.Value visit.category) →
      Script κ backend.target Result}
    {error : Failure κ backend.target} {later : Session κ backend.target}
    (visited : (Calls.within backend (depth + 1)).visit visit session = some (.error error, later))
    (fails : (compiler.hasRule visit && succeeds visit) = false)
    (reported : later.dispatches =
      session.dispatches ++ if compiler.hasRule visit then [visit.event] else [])
    (drifts : compiler.Drifts calm later.compiler)
    (handed : rest (.error error) = .done (.error error)) :
    Moment.Dispatches (⟨depth + 1,
      .applying visit.category visit.node.kind visit.node true rest, session⟩ : Moment backend)
      compiler calm succeeds (visit :: visits) (.error error) later where
  ran := by
    have passed := Script.runWith_applying rest visited
    rw [handed] at passed
    exact passed
  drifts := drifts
  trail := by
    rw [reported, dispatched]
    cases hasRule : compiler.hasRule visit with
    | false => rfl
    | true =>
        rw [hasRule, Bool.true_and] at fails
        rw [fails]
        rfl
  ends := by
    rw [culprit?, List.find?_cons_of_pos (by rw [fails]; rfl)]
    exact ⟨error, rfl, session, _, .refl, visited, handed⟩

variable (backend) in
/-- A script that makes visits, with what follows it if that does not fail and dispatches nothing,
leaves the trail of the visits. -/
theorem Script.Makes.dispatches (settles : compiler.Settles calm succeeds) (depth : Nat)
    {first : Script κ backend.target α} {visits : List (Visit κ)} (makes : first.Makes visits)
    (next : α → Script κ backend.target β)
    (finishes : ∀ value (session : Session κ backend.target),
      compiler.Drifts calm session.compiler →
        ∃ result ended,
          (next value).runWith (.within backend (depth + 1)) session = some (.ok result, ended) ∧
            compiler.Drifts calm ended.compiler ∧ ended.dispatches = session.dispatches) :
    first.Respects (fun change => ∀ state, calm state → calm (change state)) →
      ∀ {session : Session κ backend.target}, compiler.Drifts calm session.compiler →
        ∃ outcome ended,
          Moment.Dispatches (⟨depth + 1, first.bind next, session⟩ : Moment backend) compiler calm
            succeeds visits outcome ended := by
  induction makes with
  | done value =>
      intro _ session drifts
      obtain ⟨result, ended, ran, endedDrifts, unreported⟩ := finishes value session drifts
      exact ⟨.ok result, ended, ran, endedDrifts, unreported.trans (List.append_nil _).symm,
        result, rfl⟩
  | @applying visit visits rest hands _ inductionHypothesis =>
      intro respects session drifts
      obtain ⟨answer, later, applied, ends, laterDrifts, reported⟩ :=
        settles.visit depth visit drifts
      cases answer with
      | ok value =>
          obtain ⟨outcome, ended, dispatches⟩ :=
            inductionHypothesis value (respects (.ok value)) laterDrifts
          exact ⟨outcome, ended, .of_visit applied ends.symm reported dispatches⟩
      | error error =>
          have handed : (rest (.error error)).bind next = .done (.error error) := by
            rw [hands error]
            rfl
          exact ⟨.error error, later,
            .of_failed_visit applied ends.symm reported laterDrifts handed⟩
  | viewing _ inductionHypothesis =>
      intro respects session drifts
      obtain ⟨outcome, ended, dispatches⟩ := inductionHypothesis _ (respects _) drifts
      exact ⟨outcome, ended, dispatches.of_request rfl rfl⟩
  | updating _ inductionHypothesis =>
      intro respects session drifts
      obtain ⟨outcome, ended, dispatches⟩ :=
        inductionHypothesis respects.2 (drifts.update respects.1)
      exact ⟨outcome, ended, dispatches.of_request rfl rfl⟩
  | @noting message details rest visits _ inductionHypothesis =>
      intro respects session drifts
      have reported : compiler.Drifts calm (session.report [.note message details]).compiler :=
        drifts
      obtain ⟨outcome, ended, dispatches⟩ := inductionHypothesis respects reported
      refine ⟨outcome, ended, dispatches.of_request rfl ?_⟩
      rw [Session.dispatches_report]
      exact List.append_nil _

/-! ## Compilations -/

theorem Session.filter_ending_dispatch (after : Session κ target) (dropped : Nat)
    (answer : Except (Failure κ target) target.Output) :
    (after.ending dropped answer ++ [Event.closed]).filter Event.isDispatch = [] := by
  unfold Session.ending Session.lastWord
  cases answer with
  | ok output => rfl
  | error error =>
      dsimp only
      split <;> rfl

variable (backend session) in
theorem Session.dispatches_openRun (circuit : Circuit κ) :
    (session.openRun backend circuit).dispatches = session.dispatches := by
  rw [Session.openRun, Session.dispatches_report]
  exact List.append_nil _

theorem Compiler.takenSide?_of_settle {compiler : Compiler κ target} {circuit : Circuit κ}
    {output : target.Output} {error : Failure κ target}
    (refused : compiler.settle circuit output = .error error) :
    error.takenSide?.isSome = true := by
  unfold Compiler.settle Compiler.register at refused
  split at refused
  · split at refused
    · cases refused
    · cases refused
      rfl
  · split at refused
    · cases refused
    · next conflict _ =>
        cases refused
        cases conflict <;> rfl

/-- A compilation has ended after its pipeline: it answers with the result, or finds that it cannot
be registered.  It dispatches nothing more and leaves the state of the backend. -/
structure Session.Closes (result : Except (Failure κ target) target.Output)
    (ended : Session κ target) (answer : Except (Failure κ target) target.Output)
    (after : Session κ target) : Prop where
  dispatches : after.dispatches = ended.dispatches
  state : after.compiler.state = ended.compiler.state
  answer : answer = result ∨ ∃ output error, result = .ok output ∧ answer = .error error ∧
    error.takenSide?.isSome = true

section Closes

variable {ended after : Session κ target} {answer : Except (Failure κ target) target.Output}

theorem Session.Closes.answer_of_error {error : Failure κ target}
    (closes : Session.Closes (.error error) ended answer after) : answer = .error error := by
  obtain same | ⟨output, cause, finished, -, -⟩ := closes.answer
  · exact same
  · cases finished

theorem Session.Closes.takenSide?_of_ok {output : target.Output}
    (closes : Session.Closes (.ok output) ended answer after) {error : Failure κ target}
    (failed : answer = .error error) : error.takenSide?.isSome = true := by
  obtain same | ⟨other, cause, -, refused, taken⟩ := closes.answer
  · cases same.symm.trans failed
  · cases refused.symm.trans failed
    exact taken

end Closes

theorem Session.closes_conclude {ended after : Session κ target} {checkpoint : Nat}
    {circuit : Circuit κ} {result answer : Except (Failure κ target) target.Output}
    (concluded : ended.conclude checkpoint circuit result = (answer, after)) :
    Session.Closes result ended answer after := by
  have dispatches : after.dispatches = ended.dispatches := by
    unfold Session.dispatches
    rw [Session.events_of_conclude concluded, List.filter_append, Session.filter_ending_dispatch,
      List.append_nil]
  unfold Session.conclude at concluded
  split at concluded
  · cases concluded
    exact ⟨dispatches, rfl, Or.inl rfl⟩
  · next output =>
      split at concluded
      · next compiler settled =>
          cases concluded
          obtain ⟨-, -, -, rfl⟩ | ⟨-, registered⟩ := Compiler.settle_cases settled
          · exact ⟨dispatches, rfl, Or.inl rfl⟩
          · obtain ⟨ledger, -, rfl⟩ := Compiler.eq_of_register registered
            exact ⟨dispatches, rfl, Or.inl rfl⟩
      · next error refused =>
          cases concluded
          exact ⟨dispatches, rfl,
            Or.inr ⟨output, error, rfl, rfl, Compiler.takenSide?_of_settle refused⟩⟩

variable (backend) in
theorem Calls.closes_compile {circuit : Circuit κ}
    (missing : session.compiler.ledger.valueOf? circuit = .none)
    {result : Except (Failure κ backend.target) backend.target.Output}
    {ended : Session κ backend.target}
    (ran : (backend.pipeline circuit).runWith (.within backend depth)
      (session.openRun backend circuit) = some (result, ended)) :
    ∃ answer after,
      (Calls.within backend (depth + 1)).compile circuit session = some (answer, after) ∧
        Session.Closes result ended answer after :=
  ⟨_, _, Calls.compileWith_of_ran _ missing ran, Session.closes_conclude rfl⟩

/-- A compiler without compiled circuits hands on how the pipeline ends, and reports no further
dispatch. -/
theorem Moment.Dispatches.compile {circuit : Circuit κ} {visits : List (Visit κ)}
    (fresh : session.compiler.ledger = .empty)
    {outcome : Except (Failure κ backend.target) backend.target.Output}
    {ended : Session κ backend.target}
    (dispatches : Moment.Dispatches
      (⟨depth, backend.pipeline circuit, session.openRun backend circuit⟩ : Moment backend)
      session.compiler calm succeeds visits outcome ended) :
    ∃ after, (Calls.within backend (depth + 1)).compile circuit session = some (outcome, after) ∧
      after.dispatches = session.dispatches ++
        (dispatched session.compiler.hasRule succeeds visits).map Visit.event := by
  have missing : session.compiler.ledger.valueOf? circuit = none := by rw [fresh]; rfl
  obtain ⟨state, -, same⟩ := dispatches.drifts
  have stillFresh : ended.compiler.ledger = .empty := by rw [same]; exact fresh
  obtain ⟨after, concluded⟩ : ∃ after,
      ended.conclude session.compiler.ledger.checkpoint circuit outcome = (outcome, after) := by
    cases outcome with
    | error error => exact ⟨_, rfl⟩
    | ok output =>
        have consistent : ended.compiler.ledger.Consistent := stillFresh ▸ Ledger.consistent_empty
        have free : ended.compiler.ledger.Free circuit output := by
          rw [stillFresh]
          exact ⟨rfl, rfl⟩
        exact ⟨_, Session.conclude_of_settled (Compiler.settle_of_free consistent free)⟩
  refine ⟨after, ?_, ?_⟩
  · rw [← concluded]
    exact Calls.compileWith_of_ran _ missing dispatches.ran
  · rw [(Session.closes_conclude concluded).dispatches, dispatches.trail,
      Session.dispatches_openRun]

end Visits

theorem Script.Yields.settles {script : Script κ target α}
    {outcome : Except (Failure κ target) α} (yields : script.Yields outcome)
    (compiler : Compiler κ target) (calm : target.State → Prop) :
    script.Settles compiler calm outcome.isOk := by
  induction yields with
  | done outcome => exact .done rfl
  | viewing _ inductionHypothesis => exact .viewing fun state _ => inductionHypothesis _
  | noting _ inductionHypothesis => exact .noting inductionHypothesis
  | counting _ inductionHypothesis => exact .counting inductionHypothesis
  | finishing _ inductionHypothesis => exact .finishing inductionHypothesis

theorem Rulebook.Follows.settles {compiler : Compiler κ target} {results : Results κ target}
    (follows : compiler.rules.Follows results) (calm : target.State → Prop) :
    compiler.Settles calm fun visit => (results visit.category visit.node).isOk :=
  fun visit rule found => (follows visit.category visit.node rule found).settles compiler calm

theorem Script.Makes.respects {allowed : (target.State → target.State) → Prop}
    (all : ∀ change, allowed change) {script : Script κ target α} {visits : List (Visit κ)}
    (makes : script.Makes visits) : script.Respects allowed := by
  induction makes with
  | done value => trivial
  | applying hands _ inductionHypothesis =>
      intro answer
      cases answer with
      | error error => exact .of_done (hands error)
      | ok value => exact inductionHypothesis value
  | viewing _ inductionHypothesis => exact inductionHypothesis
  | updating _ inductionHypothesis => exact ⟨all _, inductionHypothesis⟩
  | noting _ inductionHypothesis => exact inductionHypothesis

end Circuitry
