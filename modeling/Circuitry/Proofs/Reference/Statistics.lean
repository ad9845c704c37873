import Circuitry.Proofs.Compiler.Aloof
import Circuitry.Proofs.Compiler.Workload
import Circuitry.Proofs.Reference.Assembling
import Circuitry.Proofs.Reference.WellFormed

/-!
# The statistics of the reference backend

The pipeline counts a visit right after it has succeeded, in loops that any failure leaves at once.
The counters therefore tell how far a run has come: they grow by the visits up to the one that
fails, or by all of them, and what a failed run has counted stays.  The reports of dispatches say
the same, but that the rule which fails has been reported and is not counted.
-/

namespace Circuitry.Reference

variable {κ : Type} [Vocabulary κ]

/-- The counter of the completed rule applications of a category. -/
def Stats.rules (stats : Stats) : Category → Nat
  | .layer => stats.layerRules
  | .parameter => stats.parameterRules
  | .initializer => stats.initializerRules

theorem State.rules_countRule (category other : Category) (state : State) :
    (State.countRule category state).stats.rules other =
      state.stats.rules other + if category = other then 1 else 0 := by
  cases category <;> cases other <;> rfl

theorem State.pipelineRuns_countRule (category : Category) (state : State) :
    (State.countRule category state).stats.pipelineRuns = state.stats.pipelineRuns := by
  cases category <;> rfl

def stats (session : Session κ target) : Stats :=
  session.compiler.state.stats

/-- Between the sessions given visits have been completed and counted, and given ones reported. -/
structure Tallied (session : Session κ target) (completed invoked : List (Visit κ))
    (later : Session κ target) : Prop where
  rules : later.compiler.rules = session.compiler.rules
  runs : (stats later).pipelineRuns = (stats session).pipelineRuns
  counted : ∀ category,
    (stats later).rules category =
      (stats session).rules category + countVisits category completed
  trail : later.dispatches = session.dispatches ++ invoked.map Visit.event

section Tallied

variable {session middle later : Session κ target} {completed invoked : List (Visit κ)}

theorem Tallied.trans {moreCompleted moreInvoked : List (Visit κ)}
    (first : Tallied session completed invoked middle)
    (second : Tallied middle moreCompleted moreInvoked later) :
    Tallied session (completed ++ moreCompleted) (invoked ++ moreInvoked) later where
  rules := second.rules.trans first.rules
  runs := second.runs.trans first.runs
  counted category := by
    rw [second.counted, first.counted, countVisits_append, Nat.add_assoc]
  trail := by rw [second.trail, first.trail, List.append_assoc, List.map_append]

theorem tallied_of_leaves (leaves : session.Leaves State.stats invoked later) :
    Tallied session [] invoked later where
  rules := leaves.rules
  runs := congrArg Stats.pipelineRuns leaves.observed
  counted category := congrArg (fun stats => Stats.rules stats category) leaves.observed
  trail := leaves.trail

theorem tallied_countRule (session : Session κ target) (visit : Visit κ) :
    Tallied session [visit] [] (session.update (State.countRule visit.category)) where
  rules := rfl
  runs := State.pipelineRuns_countRule visit.category session.compiler.state
  counted category := by
    rw [countVisits_cons, countVisits_nil, Nat.zero_add]
    exact State.rules_countRule visit.category category session.compiler.state
  trail := (List.append_nil _).symm

end Tallied

/-- Where the rules are aloof, every visit has an answer, and it fails without a rule. -/
def Answers (calls : Calls κ target) : Prop :=
  ∀ (visit : Visit κ) (session : Session κ target),
    session.compiler.rules.Aloof State.stats →
      ∃ answer later, calls.visit visit session = some (answer, later) ∧
        session.Leaves State.stats (session.compiler.invoked visit) later ∧
        (answer.isOk = true → session.compiler.invoked visit = [visit])

theorem answers_within (depth : Nat) : Answers (.within (backend : Backend κ) (depth + 1)) :=
  fun visit _ aloof => aloof.visit backend depth visit

/-- The run has come to a visit that fails with an error, and ended with it.  The visits before it
are completed; its own rule has been invoked, if there is one. -/
structure FailsAt (calls : Calls κ target) (session : Session κ target) (visits : List (Visit κ))
    (completed : List (Visit κ)) (culprit : Visit κ) (error : Failure κ target)
    (ended : Session κ target) : Prop where
  split : ∃ rest, visits = completed ++ culprit :: rest
  failed : ∃ before, Tallied session completed completed before ∧
    calls.visit culprit before = some (.error error, ended)
  tallied : Tallied session completed (completed ++ session.compiler.invoked culprit) ended

section Runs

variable {α : Type} {calls : Calls κ target} {session middle ended : Session κ target}
  {visits completed : List (Visit κ)} {culprit : Visit κ} {error : Failure κ target}

theorem FailsAt.after {done : List (Visit κ)} (before : Tallied session done done middle)
    (fails : FailsAt calls middle visits completed culprit error ended) :
    FailsAt calls session (done ++ visits) (done ++ completed) culprit error ended where
  split := by
    obtain ⟨rest, same⟩ := fails.split
    exact ⟨rest, by rw [same, List.append_assoc]⟩
  failed := by
    obtain ⟨last, tallied, visited⟩ := fails.failed
    exact ⟨last, before.trans tallied, visited⟩
  tallied := by
    have tallied := before.trans fails.tallied
    rw [Compiler.invoked_congr before.rules, ← List.append_assoc] at tallied
    exact tallied

/-- A run either completes the visits or ends with one of them. -/
theorem Counts.runWith {script : Script κ target α} (counts : Counts script visits)
    (answers : Answers calls) :
    ∀ session : Session κ target, session.compiler.rules.Aloof State.stats →
      (∃ value ended, script.runWith calls session = some (.ok value, ended) ∧
        Tallied session visits visits ended) ∨
      ∃ error ended completed culprit,
        script.runWith calls session = some (.error error, ended) ∧
          FailsAt calls session visits completed culprit error ended := by
  induction counts with
  | done value =>
      exact fun session _ => Or.inl ⟨value, session, rfl, tallied_of_leaves (.refl _ session)⟩
  | @counted visit visits next rest hands follows _ inductionHypothesis =>
      intro session aloof
      obtain ⟨answer, later, visited, leaves, ruled⟩ := answers visit session aloof
      have ran := Script.runWith_applying next visited
      cases answer with
      | error error =>
          rw [hands error] at ran
          refine Or.inr ⟨error, later, [], visit, ran, ⟨visits, rfl⟩, ?_, tallied_of_leaves leaves⟩
          exact ⟨session, tallied_of_leaves (.refl _ session), visited⟩
      | ok value =>
          rw [follows value] at ran
          have counted := (tallied_of_leaves leaves).trans (tallied_countRule later visit)
          rw [ruled rfl] at counted
          have stillAloof : Rulebook.Aloof State.stats
              (later.update (State.countRule visit.category)).compiler.rules :=
            counted.rules ▸ aloof
          obtain ⟨result, ended, completed, tallied⟩ |
              ⟨error, ended, done, culprit, failed, fails⟩ :=
            inductionHypothesis value _ stillAloof
          · exact Or.inl ⟨result, ended, ran.trans completed, counted.trans tallied⟩
          · exact Or.inr ⟨error, ended, visit :: done, culprit, ran.trans failed,
              fails.after counted⟩
  | @noting message details next visits _ inductionHypothesis =>
      intro session aloof
      have noted := tallied_of_leaves (session.leaves_note State.stats message details)
      obtain ⟨result, ended, completed, tallied⟩ | ⟨error, ended, done, culprit, failed, fails⟩ :=
        inductionHypothesis (session.report [.note message details]) aloof
      · exact Or.inl ⟨result, ended, completed, noted.trans tallied⟩
      · exact Or.inr ⟨error, ended, done, culprit, failed, fails.after noted⟩

end Runs

/-- A run of the pipeline has been counted, given visits have been completed and counted, and given
ones dispatched. -/
structure Accounted (session : Session κ target) (completed invoked : List (Visit κ))
    (ended : Session κ target) : Prop where
  runs : (stats ended).pipelineRuns = (stats session).pipelineRuns + 1
  counted : ∀ category,
    (stats ended).rules category = (stats session).rules category + countVisits category completed
  reported : ∀ category,
    ended.dispatchCount category = session.dispatchCount category + countVisits category invoked
  trail : ended.dispatches = session.dispatches ++ invoked.map Visit.event

/-- The session in which a compilation begins to assemble the circuit. -/
def begun (session : Session κ target) (circuit : Circuit κ) : Session κ target :=
  (session.openRun backend circuit).update State.countRun

section Pipeline

variable {session last ended : Session κ target} {circuit : Circuit κ}
  {completed invoked : List (Visit κ)}

/-- What follows the visits leaves the statistics, and dispatches nothing. -/
theorem accounted_of_tallied (tallied : Tallied (begun session circuit) completed invoked last)
    (sameStats : stats ended = stats last) (sameDispatches : ended.dispatches = last.dispatches) :
    Accounted session completed invoked ended := by
  have opened : (begun session circuit).dispatches = session.dispatches :=
    Session.dispatches_openRun backend session circuit
  have trail : ended.dispatches = session.dispatches ++ invoked.map Visit.event := by
    rw [sameDispatches, tallied.trail, opened]
  refine ⟨?_, fun category => ?_, Session.dispatchCount_of_trail trail, trail⟩
  · rw [sameStats, tallied.runs]
    rfl
  · rw [sameStats, tallied.counted]
    rfl

/-- The assembly of the handle completes the visits, or it ends with one of them. -/
theorem runWith_assembleHandle_cases {calls : Calls κ target} (answers : Answers calls)
    (linked : circuit.Linked) (options : Options)
    (aloof : session.compiler.rules.Aloof State.stats) :
    (∃ handle last ended,
      (assembleHandle circuit options).runWith calls session = some (.ok handle, ended) ∧
        Tallied session (circuit.visits options.prune) (circuit.visits options.prune) last ∧
        stats ended = stats last ∧ ended.dispatches = last.dispatches) ∨
      ∃ error ended completed culprit,
        (assembleHandle circuit options).runWith calls session = some (.error error, ended) ∧
          FailsAt calls session (circuit.visits options.prune) completed culprit error ended := by
  rw [runWith_assembleHandle]
  obtain ⟨program, last, ran, tallied⟩ | ⟨error, ended, completed, culprit, ran, fails⟩ :=
    (counts_assembleProgram linked options).runWith answers session aloof
  · rw [ran]
    exact Or.inl ⟨_, last, _, rfl, tallied, rfl, rfl⟩
  · rw [ran]
    exact Or.inr ⟨error, ended, completed, culprit, rfl, fails⟩

end Pipeline

/-! ## Compilations -/

/-- A run of the pipeline that has read its options and has not failed: all visits have been
completed, which are as many as the nodes of the circuit that have to be compiled.  If the
compilation fails nevertheless, its result cannot be registered. -/
structure Finishes (session : Session κ target) (circuit : Circuit κ) (options : Options)
    (answer : Except (Failure κ target) Handle) (ended : Session κ target) : Prop where
  accounted : Accounted session (circuit.visits options.prune) (circuit.visits options.prune) ended
  workload : ∀ category, (stats ended).rules category =
    (stats session).rules category + circuit.workload options.prune category
  answer : ∀ error, answer = .error error → error.takenSide?.isSome = true

/-- A run of the pipeline that has read its options and ends with the failure of a visit, after the
visits before it.  If the visit has a rule, this one has been invoked too. -/
def Breaks (calls : Calls κ target) (session : Session κ target) (circuit : Circuit κ)
    (options : Options) (answer : Except (Failure κ target) Handle) (ended : Session κ target) :
    Prop :=
  ∃ error last completed culprit, answer = .error error ∧
    FailsAt calls (begun session circuit) (circuit.visits options.prune) completed culprit error
      last ∧
    Accounted session completed (completed ++ session.compiler.invoked culprit) ended

/-- The statistics count the completed visits.  With rules that do not call the compiler back, every
compilation of a built circuit has an answer.  One that is answered from the ledger leaves the
statistics and dispatches nothing.  Any other one counts a run; it counts and reports the visits of
the circuit, all of them or those before the one that fails, and reports of this one that its rule
has been invoked if there is one. -/
theorem statistics_exact {circuit : Circuit κ} (built : circuit.Built) {session : Session κ target}
    (aloof : session.compiler.rules.Aloof State.stats) (depth : Nat) :
    ∃ answer ended,
      (Calls.within backend (depth + 2)).compile circuit session = some (answer, ended) ∧
        match session.compiler.ledger.valueOf? circuit with
        | some known =>
          answer = .ok known ∧ stats ended = stats session ∧
            ended.dispatches = session.dispatches
        | none =>
          match Options.ofFlags session.compiler.flags with
          | .error fault => answer = .error (.flag fault) ∧ Accounted session [] [] ended
          | .ok options =>
            Finishes session circuit options answer ended ∨
              Breaks (.within backend (depth + 1)) session circuit options answer ended := by
  cases found : session.compiler.ledger.valueOf? circuit with
  | some known =>
      exact ⟨.ok known, session.report [.cacheHit circuit.id target.name],
        Calls.compileWith_of_found _ found, rfl, rfl,
        (session.dispatches_report _).trans (List.append_nil _)⟩
  | none =>
      have begins : Rulebook.Aloof State.stats (begun session circuit).compiler.rules := aloof
      cases read : Options.ofFlags session.compiler.flags with
      | error fault =>
          have stillRead : Options.ofFlags
              (session.openRun (backend : Backend κ) circuit).compiler.flags = .error fault := read
          obtain ⟨answer, ended, compiled, closes⟩ := Calls.closes_compile backend found
            (runWith_pipeline_of_fault (.within backend (depth + 1)) circuit stillRead)
          have idle := tallied_of_leaves (.refl State.stats (begun session circuit))
          exact ⟨answer, ended, compiled, closes.answer_of_error,
            accounted_of_tallied idle (congrArg State.stats closes.state) closes.dispatches⟩
      | ok options =>
          have stillRead : Options.ofFlags
              (session.openRun (backend : Backend κ) circuit).compiler.flags = .ok options := read
          have runs :=
            runWith_pipeline_of_options (.within backend (depth + 1)) circuit stillRead
          obtain ⟨handle, last, ended, assembled, tallied, sameStats, sameDispatches⟩ |
              ⟨error, ended, completed, culprit, assembled, fails⟩ :=
            runWith_assembleHandle_cases (answers_within depth) built.linked options begins
          · obtain ⟨answer, after, compiled, closes⟩ :=
              Calls.closes_compile backend found (runs.trans assembled)
            have accounted := accounted_of_tallied tallied
              ((congrArg State.stats closes.state).trans sameStats)
              (closes.dispatches.trans sameDispatches)
            refine ⟨answer, after, compiled, Or.inl ⟨accounted, fun category => ?_,
              fun error => closes.takenSide?_of_ok⟩⟩
            rw [accounted.counted, built.linked.countVisits_visits]
          · obtain ⟨answer, after, compiled, closes⟩ :=
              Calls.closes_compile backend found (runs.trans assembled)
            have accounted := accounted_of_tallied fails.tallied
              (congrArg State.stats closes.state) closes.dispatches
            exact ⟨answer, after, compiled,
              Or.inr ⟨error, ended, completed, culprit, closes.answer_of_error, fails, accounted⟩⟩

namespace Sharing

/-- The rules for parameters fail, and the other ones copy the data of the node. -/
def brokenResults : Results Kind target := fun category node =>
  if category = .parameter then .error (.pipeline "no parameter") else results category node

def broken : Session Kind target where
  compiler := ⟨({} : State), .ofResults brokenResults kinds, .empty, .empty⟩
  events := #[]
  supply := {}
  invocations := []

end Sharing

/-- All visits are counted and reported; the rule that fails is reported and not counted; and the
visit that has no rule is neither. -/
theorem statistics_exact_sharing :
    Sharing.circuit.Built ∧
      (∃ answer ended,
        (Calls.within backend 2).compile Sharing.circuit Sharing.session = some (answer, ended) ∧
          Finishes Sharing.session Sharing.circuit ⟨.lseSum, true⟩ answer ended ∧
          stats ended = ⟨1, 3, 4, 2⟩) ∧
      (∃ answer ended,
        (Calls.within backend 2).compile Sharing.circuit Sharing.broken = some (answer, ended) ∧
          Breaks (.within backend 1) Sharing.broken Sharing.circuit ⟨.lseSum, true⟩ answer ended ∧
          stats ended = ⟨1, 1, 0, 1⟩ ∧ ended.dispatchCount .parameter = 1) ∧
      ∃ answer ended,
        (Calls.within backend 2).compile Sharing.circuit Sharing.halfRuled =
            some (answer, ended) ∧
          Breaks (.within backend 1) Sharing.halfRuled Sharing.circuit ⟨.lseSum, true⟩ answer
            ended ∧
          stats ended = ⟨1, 1, 0, 0⟩ ∧ ended.dispatchCount .initializer = 0 := by
  have built := Sharing.built_circuit
  refine ⟨built, ?_, ?_, ?_⟩
  · obtain ⟨handle, ended, computed, counted⟩ : ∃ handle ended,
        (Calls.within backend 2).compile Sharing.circuit Sharing.session =
            some (.ok handle, ended) ∧ stats ended = ⟨1, 3, 4, 2⟩ := ⟨_, _, rfl, rfl⟩
    have aloof : Sharing.session.compiler.rules.Aloof State.stats :=
      (Rulebook.ofResults_follows Sharing.results Sharing.kinds).aloof _
    obtain ⟨answer, after, compiled, outcome⟩ := statistics_exact built aloof 0
    cases computed.symm.trans compiled
    obtain finishes | ⟨error, _, _, _, failed, -, -⟩ := outcome
    · exact ⟨_, _, computed, finishes, counted⟩
    · cases failed
  · obtain ⟨ended, computed, counted, reported⟩ : ∃ ended,
        (Calls.within backend 2).compile Sharing.circuit Sharing.broken =
            some (.error (.pipeline "no parameter"), ended) ∧
          stats ended = ⟨1, 1, 0, 1⟩ ∧ ended.dispatchCount .parameter = 1 := ⟨_, rfl, rfl, rfl⟩
    have aloof : Sharing.broken.compiler.rules.Aloof State.stats :=
      (Rulebook.ofResults_follows Sharing.brokenResults Sharing.kinds).aloof _
    obtain ⟨answer, after, compiled, outcome⟩ := statistics_exact built aloof 0
    cases computed.symm.trans compiled
    obtain finishes | breaks := outcome
    · cases finishes.answer _ rfl
    · exact ⟨_, _, computed, breaks, counted, reported⟩
  · obtain ⟨ended, computed, counted, reported⟩ : ∃ ended,
        (Calls.within backend 2).compile Sharing.circuit Sharing.halfRuled =
            some (.error (.registry (.missing .initializer .constantInitializer none)), ended) ∧
          stats ended = ⟨1, 1, 0, 0⟩ ∧ ended.dispatchCount .initializer = 0 :=
      ⟨_, rfl, rfl, rfl⟩
    have aloof : Sharing.halfRuled.compiler.rules.Aloof State.stats :=
      (Rulebook.ofResults_follows Sharing.results _).aloof _
    obtain ⟨answer, after, compiled, outcome⟩ := statistics_exact built aloof 0
    cases computed.symm.trans compiled
    obtain finishes | breaks := outcome
    · cases finishes.answer _ rfl
    · exact ⟨_, _, computed, breaks, counted, reported⟩

end Circuitry.Reference
