import Circuitry.Proofs.Compiler.Workload
import Circuitry.Proofs.Recording.Visits

/-!
# The limit of the recording backend

At the end of each layer the recording pipeline compares its limit with the number of tags.  A layer
adds a tag for each visit to its parameter graphs and one for itself, so the number of tags is that
of the layers only as long as no parameter graph has been visited.  Where the rules succeed, the run
stops at the layer that brings the tags to the limit, if there is one; when the layers before the
limit own parameter graphs, that is an earlier layer, or there is none.
-/

namespace Circuitry

variable {κ : Type} [Vocabulary κ]

theorem LayerEntry.length_visits (layer : LayerEntry κ) :
    layer.visits.length =
      (layer.parameters.flatMap fun parameter => parameter.2.visits).length + 1 := by
  unfold LayerEntry.visits
  rw [List.length_append]
  rfl

theorem ParameterGraph.Linked.visits_ne_nil {graph : ParameterGraph κ} (linked : graph.Linked) :
    graph.visits ≠ [] := by
  have listed : graph.output ∈ graph.schedule.map (·.1) := by
    rw [graph.map_fst_schedule]
    exact (linked.topologicalOrder.mem_iff _).mpr (.root List.mem_cons_self)
  obtain ⟨item, scheduled, -⟩ := List.mem_map.mp listed
  unfold ParameterGraph.visits ParameterEntry.visits
  rw [Ne, List.flatMap_eq_nil_iff]
  intro none
  exact List.append_ne_nil_of_right_ne_nil _ (List.cons_ne_nil _ _) (none item scheduled)

/-- A layer is visited once, without its parameter graphs only if it owns none. -/
theorem LayerEntry.length_visits_eq_one_iff {layer : LayerEntry κ}
    (linked : ∀ parameter ∈ layer.parameters, parameter.2.Linked) :
    layer.visits.length = 1 ↔ layer.parameters = [] := by
  rw [layer.length_visits]
  constructor
  · intro single
    have none := List.eq_nil_of_length_eq_zero (Nat.succ_inj.mp single)
    refine List.eq_nil_iff_forall_not_mem.mpr fun parameter member => ?_
    exact (linked parameter member).visits_ne_nil
      (List.flatMap_eq_nil_iff.mp none parameter member)
  · intro empty
    rw [empty]
    rfl

theorem length_le_scheduledVisits (schedule : List (Nat × LayerEntry κ)) :
    schedule.length ≤ (scheduledVisits schedule).length := by
  induction schedule with
  | nil => exact Nat.le_refl 0
  | cons item rest inductionHypothesis =>
      have own := item.2.length_visits
      have both : (scheduledVisits (item :: rest)).length =
          item.2.visits.length + (scheduledVisits rest).length := List.length_append
      rw [List.length_cons, both]
      omega

theorem length_scheduledVisits_eq_iff {schedule : List (Nat × LayerEntry κ)}
    (linked : ∀ item ∈ schedule, ∀ parameter ∈ item.2.parameters, parameter.2.Linked) :
    (scheduledVisits schedule).length = schedule.length ↔
      ∀ item ∈ schedule, item.2.parameters = [] := by
  induction schedule with
  | nil => simp [scheduledVisits]
  | cons item rest inductionHypothesis =>
      obtain ⟨itemLinked, restLinked⟩ := List.forall_mem_cons.mp linked
      have both : (scheduledVisits (item :: rest)).length =
          item.2.visits.length + (scheduledVisits rest).length := List.length_append
      have own := item.2.length_visits
      have others := length_le_scheduledVisits rest
      rw [List.forall_mem_cons, ← LayerEntry.length_visits_eq_one_iff itemLinked,
        ← inductionHypothesis restLinked, both, List.length_cons]
      omega

/-- The visits to the first layers of the pruned circuit. -/
def Circuit.firstVisits (circuit : Circuit κ) (layers : Nat) : List (Visit κ) :=
  scheduledVisits ((circuit.schedule true).take layers)

namespace Recording

/-- The error of a run that stops at its limit. -/
def injectedFailure : Failure κ (target κ) :=
  .pipeline "injected failure"

/-- Any number of visits have been dispatched, and the compiler has changed in the state of its
backend at most. -/
structure Advances (compiler : Compiler κ (target κ)) (visits : List (Visit κ))
    (session later : Session κ (target κ)) : Prop where
  drifts : compiler.Drifts (fun _ => True) later.compiler
  dispatches : later.dispatches = session.dispatches ++ visits.map Visit.event

/-- Each of the visits succeeds whenever it is made. -/
def Succeeds (calls : Calls κ (target κ)) (compiler : Compiler κ (target κ))
    (visits : List (Visit κ)) : Prop :=
  ∀ visit ∈ visits, ∀ session : Session κ (target κ),
    compiler.Drifts (fun _ => True) session.compiler →
      ∃ (tag : String) (later : Session κ (target κ)),
        calls.visit visit session = some (.ok tag, later) ∧
          Advances compiler [visit] session later

section Runs

variable {calls : Calls κ (target κ)} {compiler : Compiler κ (target κ)}
  {session middle later : Session κ (target κ)} {visits more : List (Visit κ)} {limit : Nat}

theorem Advances.trans (first : Advances compiler visits session middle)
    (second : Advances compiler more middle later) :
    Advances compiler (visits ++ more) session later :=
  ⟨second.drifts, by
    rw [second.dispatches, first.dispatches, List.append_assoc, List.map_append]⟩

variable (more) in
theorem Succeeds.left (succeeds : Succeeds calls compiler (visits ++ more)) :
    Succeeds calls compiler visits :=
  fun visit member => succeeds visit (List.mem_append_left more member)

variable (visits) in
theorem Succeeds.right (succeeds : Succeeds calls compiler (visits ++ more)) :
    Succeeds calls compiler more :=
  fun visit member => succeeds visit (List.mem_append_right visits member)

theorem runWith_recordVisits (visits : List (Visit κ)) :
    ∀ {session : Session κ (target κ)} (tags : List String), Succeeds calls compiler visits →
      compiler.Drifts (fun _ => True) session.compiler →
        ∃ final later, (recordVisits tags visits).runWith calls session = some (.ok final, later) ∧
          final.length = tags.length + visits.length ∧ Advances compiler visits session later := by
  induction visits with
  | nil =>
      intro session tags _ drifts
      exact ⟨tags, session, rfl, rfl, drifts, (List.append_nil _).symm⟩
  | cons visit rest inductionHypothesis =>
      intro session tags succeeds drifts
      obtain ⟨tag, middle, visited, advances⟩ :=
        succeeds visit List.mem_cons_self session drifts
      obtain ⟨final, later, ran, length, advancesThen⟩ := inductionHypothesis (tags ++ [tag])
        (Succeeds.right [visit] succeeds) advances.drifts
      refine ⟨final, later, ?_, ?_, advances.trans advancesThen⟩
      · rw [recordVisits]
        exact (Script.runWith_bind_of_ok _
          ((Script.runWith_compileNode _ visit.category visit.node session).trans visited)).trans
            ran
      · rw [length, List.length_append, List.length_singleton, List.length_cons]
        omega

/-! ## Runs of layers -/

/-- A layer is recorded visit by visit, and then the tags are counted. -/
theorem recordLayers_cons (limit : Option Nat) (tags : List String) (item : Nat × LayerEntry κ)
    (rest : List (Nat × LayerEntry κ)) :
    recordLayers limit tags (item :: rest) = (do
      let more ← recordVisits tags item.2.visits
      if limit = some more.length then Script.fail injectedFailure
      else recordLayers limit more rest) := by
  rw [LayerEntry.visits, recordVisits_append, recordLayers, recordParameters_eq]
  simp only [recordVisits, bind_assoc, pure_bind]
  rfl

theorem runWith_recordLayers_cons (limit : Nat) (tags : List String)
    {item : Nat × LayerEntry κ} (rest : List (Nat × LayerEntry κ))
    (succeeds : Succeeds calls compiler item.2.visits)
    (drifts : compiler.Drifts (fun _ => True) session.compiler) :
    ∃ more later, more.length = tags.length + item.2.visits.length ∧
      Advances compiler item.2.visits session later ∧
      (recordLayers (some limit) tags (item :: rest)).runWith calls session =
        if limit = more.length then some (.error injectedFailure, later)
        else (recordLayers (some limit) more rest).runWith calls later := by
  obtain ⟨more, later, ran, length, advances⟩ :=
    runWith_recordVisits item.2.visits tags succeeds drifts
  refine ⟨more, later, length, advances, ?_⟩
  rw [recordLayers_cons, Script.runWith_bind_of_ok _ ran]
  simp only [Option.some.injEq]
  split <;> rfl

/-- The run stops at the layer that brings the tags to the limit.  The induction is on the
schedule; the layers before that one leave the tags below the limit. -/
theorem runWith_recordLayers_of_reached (schedule : List (Nat × LayerEntry κ)) :
    ∀ {session : Session κ (target κ)} (tags : List String) {layers : Nat},
      Succeeds calls compiler (scheduledVisits schedule) →
        compiler.Drifts (fun _ => True) session.compiler → layers < schedule.length →
          tags.length + (scheduledVisits (schedule.take (layers + 1))).length = limit →
            ∃ later,
              (recordLayers (some limit) tags schedule).runWith calls session =
                  some (.error injectedFailure, later) ∧
                Advances compiler (scheduledVisits (schedule.take (layers + 1))) session later := by
  induction schedule with
  | nil =>
      intro session tags layers _ _ few
      exact absurd few (Nat.not_lt_zero layers)
  | cons item rest inductionHypothesis =>
      intro session tags layers succeeds drifts few reached
      have split : scheduledVisits ((item :: rest).take (layers + 1)) =
          item.2.visits ++ scheduledVisits (rest.take layers) := rfl
      rw [split, List.length_append] at reached
      obtain ⟨more, later, length, advances, ran⟩ := runWith_recordLayers_cons limit tags rest
        (Succeeds.left (scheduledVisits rest) succeeds) drifts
      rw [ran, split]
      cases layers with
      | zero =>
          have last : limit = more.length := by
            rw [length, ← reached]
            rfl
          rw [if_pos last]
          exact ⟨later, rfl, (List.append_nil _).symm ▸ advances⟩
      | succ layers =>
          rw [List.length_cons, Nat.succ_lt_succ_iff] at few
          have others := length_le_scheduledVisits (rest.take (layers + 1))
          rw [List.length_take] at others
          have below : limit ≠ more.length := by omega
          rw [if_neg below]
          obtain ⟨final, stopped, advancesThen⟩ := inductionHypothesis more
            (Succeeds.right item.2.visits succeeds) advances.drifts few (by omega)
          exact ⟨final, stopped, advances.trans advancesThen⟩

/-- When no layer brings the tags to the limit, all of them are recorded. -/
theorem runWith_recordLayers_of_missed (schedule : List (Nat × LayerEntry κ)) :
    ∀ {session : Session κ (target κ)} (tags : List String),
      Succeeds calls compiler (scheduledVisits schedule) →
        compiler.Drifts (fun _ => True) session.compiler →
          (∀ layers < schedule.length,
            tags.length + (scheduledVisits (schedule.take (layers + 1))).length ≠ limit) →
            ∃ final later,
              (recordLayers (some limit) tags schedule).runWith calls session =
                  some (.ok final, later) ∧
                Advances compiler (scheduledVisits schedule) session later := by
  induction schedule with
  | nil =>
      intro session tags _ drifts _
      exact ⟨tags, session, rfl, drifts, (List.append_nil _).symm⟩
  | cons item rest inductionHypothesis =>
      intro session tags succeeds drifts missed
      obtain ⟨more, later, length, advances, ran⟩ := runWith_recordLayers_cons limit tags rest
        (Succeeds.left (scheduledVisits rest) succeeds) drifts
      have total : ∀ layers, tags.length +
          (scheduledVisits ((item :: rest).take (layers + 1))).length =
            more.length + (scheduledVisits (rest.take layers)).length := fun layers => by
        have split : scheduledVisits ((item :: rest).take (layers + 1)) =
            item.2.visits ++ scheduledVisits (rest.take layers) := rfl
        rw [split, List.length_append, length, Nat.add_assoc]
      have here := missed 0 (Nat.zero_lt_succ _)
      rw [total] at here
      have continues : limit ≠ more.length := fun same => here same.symm
      rw [ran, if_neg continues]
      obtain ⟨final, ended, ranRest, advancesThen⟩ := inductionHypothesis more
        (Succeeds.right item.2.visits succeeds) advances.drifts
        fun layers few => total (layers + 1) ▸ missed (layers + 1) (Nat.succ_lt_succ few)
      exact ⟨final, ended, ranRest, advances.trans advancesThen⟩

end Runs

/-- The script ends and dispatches nothing, and its error is not that of the limit. -/
def Harmless {α : Type} (script : Script κ (target κ) α) : Prop :=
  ∀ (calls : Calls κ (target κ)) (session : Session κ (target κ)), ∃ outcome later,
    script.runWith calls session = some (outcome, later) ∧
      later.dispatches = session.dispatches ∧ outcome ≠ .error injectedFailure

section Harmless

variable {α β : Type}

theorem harmless_pure (value : α) : Harmless (pure value : Script κ (target κ) α) :=
  fun _ session => ⟨.ok value, session, rfl, rfl, fun same => nomatch same⟩

theorem Harmless.bind {first : Script κ (target κ) α} {next : α → Script κ (target κ) β}
    (harmless : Harmless first) (continues : ∀ value, Harmless (next value)) :
    Harmless (first >>= next) := by
  intro calls session
  obtain ⟨outcome, middle, ran, same, other⟩ := harmless calls session
  rw [Script.bind_eq, Script.runWith_bind, ran]
  cases outcome with
  | error error =>
      refine ⟨.error error, middle, rfl, same, fun equal => other ?_⟩
      cases equal
      rfl
  | ok value =>
      obtain ⟨outcome, later, ranNext, sameNext, otherNext⟩ := continues value calls middle
      exact ⟨outcome, later, ranNext, sameNext.trans same, otherNext⟩

theorem Harmless.currentState_bind {next : State κ → Script κ (target κ) α}
    (continues : ∀ state, Harmless (next state)) : Harmless (currentState >>= next) :=
  fun calls session => continues session.compiler.state calls session

theorem harmless_newTape (tags : List String) :
    Harmless (newTape tags : Script κ (target κ) Tape) :=
  fun _ session => ⟨_, session.update State.takeNumber, rfl, rfl, fun same => nomatch same⟩

theorem harmless_register (circuit : Circuit κ) (tape : Tape) :
    Harmless (Script.register circuit tape : Script κ (target κ) Unit) := by
  intro calls session
  refine ⟨(session.register circuit tape).1, (session.register circuit tape).2, rfl, ?_, ?_⟩
  · unfold Session.register
    split <;> rfl
  · unfold Session.register Compiler.register
    cases session.compiler.ledger.register circuit tape with
    | ok ledger => exact fun same => nomatch same
    | error conflict => cases conflict <;> exact fun same => nomatch same

theorem harmless_failAtEnd : Harmless (failAtEnd : Script κ (target κ) Unit) := by
  refine Harmless.currentState_bind fun state => ?_
  split
  · refine fun _ session => ⟨_, session, rfl, rfl, fun same => ?_⟩
    exact absurd (CompileError.pipeline.inj (Except.error.inj same)) (by decide)
  · exact harmless_pure ()

theorem harmless_finishTape (circuit : Circuit κ) (tags : List String) :
    Harmless (finishTape circuit tags) := by
  have decoy : Harmless (registerDecoy circuit) := by
    refine Harmless.currentState_bind fun state => ?_
    split
    · exact (harmless_newTape []).bind fun decoy => harmless_register circuit decoy
    · exact harmless_pure ()
  have side : ∀ result, Harmless (registerSide result : Script κ (target κ) Unit) := by
    intro result
    refine Harmless.currentState_bind fun state => ?_
    split
    · exact harmless_pure ()
    · next side _ =>
        dsimp only
        split
        · exact (harmless_pure result).bind fun value => harmless_register side value
        · exact (harmless_newTape []).bind fun value => harmless_register side value
  have own : ∀ result, Harmless (registerSelf circuit result) := by
    intro result
    refine Harmless.currentState_bind fun state => ?_
    split
    · exact harmless_register circuit result
    · exact harmless_pure ()
  exact decoy.bind fun _ => (harmless_newTape tags).bind fun result =>
    (side result).bind fun _ => (own result).bind fun _ =>
      harmless_failAtEnd.bind fun _ => harmless_pure result

end Harmless

section Pipeline

variable {calls : Calls κ (target κ)} {opened : Session κ (target κ)} {circuit : Circuit κ}
  {limit : Nat}

theorem runWith_pipeline_of_limit
    (limited : opened.compiler.state.switches.failAfterLayers = some limit) :
    (pipeline circuit).runWith calls opened =
      ((recordLayers (some limit) [] (circuit.schedule true)).bind (finishTape circuit)).runWith
        calls (opened.update State.countRun) := by
  rw [pipeline_eq, ← limited]
  rfl

theorem drifts_countRun (opened : Session κ (target κ)) :
    opened.compiler.Drifts (fun _ => True) (opened.update State.countRun).compiler :=
  ⟨State.countRun opened.compiler.state, trivial, rfl⟩

theorem runWith_pipeline_of_reached
    (limited : opened.compiler.state.switches.failAfterLayers = some limit)
    (succeeds : Succeeds calls opened.compiler (scheduledVisits (circuit.schedule true)))
    {layers : Nat} (few : layers < (circuit.schedule true).length)
    (reached : (circuit.firstVisits (layers + 1)).length = limit) :
    ∃ ended, (pipeline circuit).runWith calls opened = some (.error injectedFailure, ended) ∧
      ended.dispatches =
        opened.dispatches ++ (circuit.firstVisits (layers + 1)).map Visit.event := by
  obtain ⟨ended, stopped, advances⟩ := runWith_recordLayers_of_reached (circuit.schedule true)
    [] succeeds (drifts_countRun opened) few ((Nat.zero_add _).trans reached)
  refine ⟨ended, ?_, advances.dispatches⟩
  rw [runWith_pipeline_of_limit limited, Script.runWith_bind, stopped]

theorem runWith_pipeline_of_missed
    (limited : opened.compiler.state.switches.failAfterLayers = some limit)
    (succeeds : Succeeds calls opened.compiler (scheduledVisits (circuit.schedule true)))
    (missed : ∀ layers < (circuit.schedule true).length,
      (circuit.firstVisits (layers + 1)).length ≠ limit) :
    ∃ outcome ended, (pipeline circuit).runWith calls opened = some (outcome, ended) ∧
      outcome ≠ .error injectedFailure ∧
      ended.dispatches = opened.dispatches ++ (circuit.visits true).map Visit.event := by
  obtain ⟨tags, middle, recorded, advances⟩ := runWith_recordLayers_of_missed
    (circuit.schedule true) [] succeeds (drifts_countRun opened)
    fun layers few => by
      rw [List.length_nil, Nat.zero_add]
      exact missed layers few
  obtain ⟨outcome, ended, ran, same, other⟩ := harmless_finishTape circuit tags calls middle
  refine ⟨outcome, ended, ?_, other, same.trans advances.dispatches⟩
  rw [runWith_pipeline_of_limit limited, Script.runWith_bind, recorded]
  exact ran

end Pipeline

/-! ## Compilations -/

/-- The compiler has not compiled the circuit and is to stop at a limit.  The nodes of the circuit
have rules, and its rules succeed on every node without calling the compiler back. -/
structure Limited (session : Session κ (target κ)) (circuit : Circuit κ) (limit : Nat) : Prop where
  missing : session.compiler.ledger.valueOf? circuit = none
  limit : session.compiler.state.switches.failAfterLayers = some limit
  settles : session.compiler.Settles (fun _ => True) fun _ => true
  ruled : ∀ visit ∈ circuit.visits true, session.compiler.hasRule visit = true

/-- The compilation fails for the limit, after the rules of just the first layers, and of what
belongs to them, have been invoked. -/
def StopsAfter (session : Session κ (target κ)) (circuit : Circuit κ) (layers : Nat)
    (answer : Except (Failure κ (target κ)) Tape) (ended : Session κ (target κ)) : Prop :=
  answer = .error injectedFailure ∧
    ended.dispatches = session.dispatches ++ (circuit.firstVisits layers).map Visit.event

section Limited

variable {session : Session κ (target κ)} {circuit : Circuit κ} {limit : Nat}

theorem Limited.succeeds (limited : Limited session circuit limit) (depth : Nat) :
    Succeeds (.within backend (depth + 1)) session.compiler
      (scheduledVisits (circuit.schedule true)) := by
  intro visit member before drifts
  obtain ⟨tag, later, visited, laterDrifts, reported⟩ :=
    Compiler.Settles.visit_of_succeeds backend limited.settles depth drifts
      (limited.ruled visit member) rfl
  exact ⟨tag, later, visited, laterDrifts, reported⟩

theorem Limited.stopsAfter (limited : Limited session circuit limit) (depth : Nat) {layers : Nat}
    (positive : 0 < layers) (few : layers ≤ (circuit.schedule true).length)
    (reached : (circuit.firstVisits layers).length = limit) :
    ∃ answer ended,
      (Calls.within backend (depth + 2)).compile circuit session = some (answer, ended) ∧
        StopsAfter session circuit layers answer ended := by
  obtain ⟨before, rfl⟩ := Nat.exists_eq_add_one.mpr positive
  let opened : Session κ (target κ) := session.openRun backend circuit
  have limit : opened.compiler.state.switches.failAfterLayers = some limit := limited.limit
  obtain ⟨stopped, ran, trail⟩ :=
    runWith_pipeline_of_reached limit (limited.succeeds depth) few reached
  obtain ⟨answer, ended, compiled, closes⟩ :=
    Calls.closes_compile backend limited.missing ran
  have before : opened.dispatches = session.dispatches :=
    Session.dispatches_openRun backend session circuit
  exact ⟨answer, ended, compiled, closes.answer_of_error, before ▸ closes.dispatches.trans trail⟩

theorem Limited.missed (limited : Limited session circuit limit) (depth : Nat)
    (missed : ∀ layers, 0 < layers → layers ≤ (circuit.schedule true).length →
      (circuit.firstVisits layers).length ≠ limit) :
    ∃ answer ended,
      (Calls.within backend (depth + 2)).compile circuit session = some (answer, ended) ∧
        answer ≠ .error injectedFailure ∧
        ended.dispatches = session.dispatches ++ (circuit.visits true).map Visit.event := by
  let opened : Session κ (target κ) := session.openRun backend circuit
  have limit : opened.compiler.state.switches.failAfterLayers = some limit := limited.limit
  obtain ⟨outcome, finished, ran, other, trail⟩ :=
    runWith_pipeline_of_missed limit (limited.succeeds depth)
      fun layers few => missed (layers + 1) (Nat.succ_pos layers) few
  obtain ⟨answer, ended, compiled, closes⟩ :=
    Calls.closes_compile backend limited.missing ran
  have before : opened.dispatches = session.dispatches :=
    Session.dispatches_openRun backend session circuit
  refine ⟨answer, ended, compiled, ?_, before ▸ closes.dispatches.trans trail⟩
  obtain same | ⟨output, error, -, refused, taken⟩ := closes.answer
  · exact fun equal => other (same.symm.trans equal)
  · intro equal
    cases refused.symm.trans equal
    cases taken

theorem linked_of_mem_take (built : circuit.Built) (layers : Nat) :
    ∀ item ∈ (circuit.schedule true).take layers, ∀ parameter ∈ item.2.parameters,
      parameter.2.Linked :=
  fun _ member => built.linked.of_mem_schedule (List.mem_of_mem_take member)

theorem StopsAfter.dispatchCount {layers : Nat}
    {answer : Except (Failure κ (target κ)) Tape} {ended : Session κ (target κ)}
    (stops : StopsAfter session circuit layers answer ended) (built : circuit.Built)
    (few : layers ≤ (circuit.schedule true).length) :
    ended.dispatchCount .layer = session.dispatchCount .layer + layers := by
  have invoked : countVisits .layer (circuit.firstVisits layers) = layers := by
    rw [Circuit.firstVisits, countVisits_scheduledVisits (linked_of_mem_take built layers)]
    simp [ParameterGraph.workload, few]
  rw [Session.dispatchCount_of_trail stops.2, invoked]

theorem length_firstVisits_eq_iff (built : circuit.Built) {layers : Nat}
    (few : layers ≤ (circuit.schedule true).length) :
    (circuit.firstVisits layers).length = layers ↔
      ∀ item ∈ (circuit.schedule true).take layers, item.2.parameters = [] := by
  have counted := length_scheduledVisits_eq_iff (linked_of_mem_take built layers)
  rw [List.length_take_of_le few] at counted
  exact counted

/-- The run stops where the tags reach the limit.  With rules that succeed, the compilation of a
circuit fails for the limit after the first layers if there are just as many visits to these as the
limit says.  If there are no such layers it does not fail for the limit, and all nodes are compiled.
So a limit that is a number of layers stops the run after these layers exactly when none of them
owns a parameter graph. -/
theorem stops_at_limit (built : circuit.Built) (limited : Limited session circuit limit)
    (depth : Nat) :
    ∃ answer ended,
      (Calls.within backend (depth + 2)).compile circuit session = some (answer, ended) ∧
      (∀ layers, 0 < layers → layers ≤ (circuit.schedule true).length →
        (circuit.firstVisits layers).length = limit →
          StopsAfter session circuit layers answer ended ∧
            ended.dispatchCount .layer = session.dispatchCount .layer + layers) ∧
      ((∀ layers, 0 < layers → layers ≤ (circuit.schedule true).length →
        (circuit.firstVisits layers).length ≠ limit) →
          answer ≠ .error injectedFailure ∧
            ended.dispatches = session.dispatches ++ (circuit.visits true).map Visit.event) ∧
      (0 < limit → limit ≤ (circuit.schedule true).length →
        (answer = .error injectedFailure ∧
            ended.dispatchCount .layer = session.dispatchCount .layer + limit ↔
          ∀ item ∈ (circuit.schedule true).take limit, item.2.parameters = [])) := by
  by_cases reached : ∃ layers, 0 < layers ∧ layers ≤ (circuit.schedule true).length ∧
      (circuit.firstVisits layers).length = limit
  · obtain ⟨stop, stopPositive, stopFew, stopReached⟩ := reached
    obtain ⟨answer, ended, compiled, stops⟩ :=
      limited.stopsAfter depth stopPositive stopFew stopReached
    have invoked := stops.dispatchCount built stopFew
    refine ⟨answer, ended, compiled, ?_, ?_, ?_⟩
    · intro layers positive few same
      obtain ⟨other, otherEnded, compiledToo, stopsToo⟩ :=
        limited.stopsAfter depth positive few same
      cases compiled.symm.trans compiledToo
      exact ⟨stopsToo, stopsToo.dispatchCount built few⟩
    · exact fun missed => absurd stopReached (missed stop stopPositive stopFew)
    · intro _ few
      rw [← length_firstVisits_eq_iff built few]
      constructor
      · rintro ⟨-, count⟩
        have last : stop = limit := Nat.add_left_cancel (invoked.symm.trans count)
        exact last ▸ stopReached
      · intro same
        obtain ⟨other, otherEnded, compiledToo, stopsToo⟩ :=
          limited.stopsAfter depth (by omega) few same
        cases compiled.symm.trans compiledToo
        exact ⟨stopsToo.1, stopsToo.dispatchCount built few⟩
  · have missed : ∀ layers, 0 < layers → layers ≤ (circuit.schedule true).length →
        (circuit.firstVisits layers).length ≠ limit :=
      fun layers positive few same => reached ⟨layers, positive, few, same⟩
    obtain ⟨answer, ended, compiled, other, trail⟩ := limited.missed depth missed
    refine ⟨answer, ended, compiled, ?_, fun _ => ⟨other, trail⟩, ?_⟩
    · exact fun layers positive few same => absurd same (missed layers positive few)
    · intro positive few
      rw [← length_firstVisits_eq_iff built few]
      exact ⟨fun both => absurd both.1 other, fun same => absurd same (missed limit positive few)⟩

end Limited

namespace Limits

/-- Every node is tagged with its category. -/
def tags : Results Kind (target Kind) :=
  fun category _ => .ok category.label

def kinds : Category → List Kind
  | .layer => [.leaf, .weightedSum, .plainProduct]
  | .parameter => [.weight]
  | .initializer => [.ones]

def session (limit : Nat) : Session Kind (target Kind) where
  compiler := ⟨({ switches := { failAfterLayers := some limit } } : State Kind),
    .ofResults tags kinds, .empty, .empty⟩
  events := #[]
  supply := {}
  invocations := []

theorem limited (limit : Nat) : Limited (session limit) Overlap.circuit limit where
  missing := rfl
  limit := rfl
  settles := by
    have follows : (session limit).compiler.rules.Follows tags :=
      Rulebook.ofResults_follows tags kinds
    exact follows.settles fun _ => True
  ruled := by
    have ruled : ∀ visit ∈ Overlap.circuit.visits true,
        (session 0).compiler.hasRule visit = true := by decide
    exact ruled

/-- The second of the three layers brings the tags from one to five. -/
theorem length_firstVisits : ∀ layers < 4, 0 < layers →
    (Overlap.circuit.firstVisits layers).length ≠ 2 := by
  decide

end Limits

/-- The limit one stops the run after the first layer, and the limit five after the second one.  The
limit two does not stop it. -/
theorem stops_at_limit_overlap :
    (∃ answer ended,
      (Calls.within backend 2).compile Overlap.circuit (Limits.session 1) = some (answer, ended) ∧
        StopsAfter (Limits.session 1) Overlap.circuit 1 answer ended) ∧
    (∃ answer ended,
      (Calls.within backend 2).compile Overlap.circuit (Limits.session 5) = some (answer, ended) ∧
        StopsAfter (Limits.session 5) Overlap.circuit 2 answer ended) ∧
    ∃ answer ended,
      (Calls.within backend 2).compile Overlap.circuit (Limits.session 2) = some (answer, ended) ∧
        answer ≠ .error injectedFailure ∧ ended.dispatchCount .layer = 3 := by
  have built := Overlap.built_circuit
  refine ⟨?_, ?_, ?_⟩
  · obtain ⟨answer, ended, compiled, reached, -, -⟩ := stops_at_limit built (Limits.limited 1) 0
    exact ⟨answer, ended, compiled, (reached 1 (by decide) (by decide) (by decide)).1⟩
  · obtain ⟨answer, ended, compiled, reached, -, -⟩ := stops_at_limit built (Limits.limited 5) 0
    exact ⟨answer, ended, compiled, (reached 2 (by decide) (by decide) (by decide)).1⟩
  · obtain ⟨answer, ended, compiled, -, missed, -⟩ := stops_at_limit built (Limits.limited 2) 0
    obtain ⟨other, trail⟩ := missed fun layers positive few =>
      Limits.length_firstVisits layers (Nat.lt_succ_of_le few) positive
    refine ⟨answer, ended, compiled, other, ?_⟩
    rw [Session.dispatchCount_of_trail trail]
    rfl

/-- A limit does not always stop the run after so many layers. -/
theorem not_stops_after_layers :
    ¬ ∀ (circuit : Circuit Kind) (session : Session Kind (target Kind)) (limit depth : Nat),
      circuit.Built → Limited session circuit limit → 0 < limit →
        limit ≤ (circuit.schedule true).length →
          ∃ ended,
            (Calls.within backend (depth + 2)).compile circuit session =
                some (.error injectedFailure, ended) ∧
              ended.dispatchCount .layer = session.dispatchCount .layer + limit := by
  intro always
  obtain ⟨ended, failed, -⟩ := always Overlap.circuit (Limits.session 2) 2 0
    Overlap.built_circuit (Limits.limited 2) (by decide) (by decide)
  obtain ⟨answer, after, compiled, other, -⟩ := (Limits.limited 2).missed 0
    fun layers positive few =>
      Limits.length_firstVisits layers (Nat.lt_succ_of_le few) positive
  cases failed.symm.trans compiled
  exact other rfl

end Recording

end Circuitry
