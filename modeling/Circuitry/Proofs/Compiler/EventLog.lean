import Circuitry.Proofs.Compiler.Atomicity
import Circuitry.Proofs.Compiler.Chronicle

/-!
# The event log

What is reported during a run is a log in which the runs of pipelines are properly bracketed, and
each of them is closed by an ending that tells what became of it.  The endings of a log are those of
the compilations in the chronicle of the run that were not answered from the ledger, one for each.
-/

namespace Circuitry

section Bracketed

variable {κ : Type}

namespace Event

/-- The event belongs neither to the beginning nor to the end of the run of a pipeline. -/
def isPlain : Event κ → Bool
  | opened _ _ | compiled _ | rolledBack _ | failed _ | closed => false
  | _ => true

/-- The event tells that the run of a pipeline has succeeded or that it has failed. -/
def isEnding : Event κ → Bool
  | compiled _ | failed _ => true
  | _ => false

/-- What is reported at the end of a run before it is closed. -/
inductive Ending : List (Event κ) → Prop
  | compiled (circuits : Nat) : Ending [.compiled circuits]
  | failed (error : String) : Ending [.failed error]
  | rolledBack {dropped : Nat} (error : String) :
      0 < dropped → Ending [.rolledBack dropped, .failed error]

theorem not_isEnding_of_isPlain {event : Event κ} (plain : event.isPlain = true) :
    event.isEnding = false := by
  cases event <;> first | rfl | cases plain

end Event

/-- A log in which runs are closed in the order opposite to that in which they were opened, each
after its own ending. -/
inductive Bracketed : List (Event κ) → Prop
  | nil : Bracketed []
  | plain {event : Event κ} {log : List (Event κ)} :
      event.isPlain = true → Bracketed log → Bracketed (event :: log)
  | run {circuit : CircuitId} {backend : String} {inner ending rest : List (Event κ)} :
      Bracketed inner → Event.Ending ending → Bracketed rest →
      Bracketed (.opened circuit backend :: (inner ++ (ending ++ .closed :: rest)))

namespace Bracketed

theorem append {first second : List (Event κ)} (bracketed : Bracketed first)
    (others : Bracketed second) : Bracketed (first ++ second) := by
  induction bracketed with
  | nil => exact others
  | plain isPlain _ inductionHypothesis => exact .plain isPlain inductionHypothesis
  | run inner ending _ _ inductionHypothesis =>
      rw [List.cons_append, List.append_assoc, List.append_assoc, List.cons_append]
      exact .run inner ending inductionHypothesis

theorem of_plain {log : List (Event κ)} (plain : ∀ event ∈ log, event.isPlain = true) :
    Bracketed log := by
  induction log with
  | nil => exact .nil
  | cons event rest inductionHypothesis =>
      obtain ⟨first, others⟩ := List.forall_mem_cons.mp plain
      exact .plain first (inductionHypothesis others)

end Bracketed

end Bracketed

variable {κ : Type} [Vocabulary κ] {α : Type}

section Deeds

variable {target : Target}

/-- The last thing that a run of a pipeline with an answer reports before it is closed. -/
def Session.lastWord (after : Session κ target)
    (answer : Except (Failure κ target) target.Output) : Event κ :=
  match answer with
  | .ok _ => .compiled after.compiler.ledger.size
  | .error error => .failed (error.mapOutput target.outline).message

/-- The compilation was not answered from the ledger. -/
def Deed.isMiss : Deed κ target → Bool
  | compilation call => call.result.isSome
  | _ => false

/-- How the run of a compilation that was not answered from the ledger has ended. -/
def Deed.ending? : Deed κ target → Option (Event κ)
  | compilation call => call.result.map fun _ => call.after.lastWord call.answer
  | _ => none

theorem Deed.isSome_ending? (deed : Deed κ target) : deed.ending?.isSome = deed.isMiss := by
  cases deed with
  | compilation call => exact Option.isSome_map
  | registration => rfl
  | request => rfl

theorem Script.ending?_firstDeed (script : Script κ target α) (later : Session κ target) :
    (script.firstDeed later).ending? = none := by
  cases script <;> rfl

/-- What has been reported from one session to another is a log with the endings of the deeds in
between. -/
structure Session.Logs (before after : Session κ target) (deeds : List (Deed κ target))
    (log : List (Event κ)) : Prop where
  events : after.events.toList = before.events.toList ++ log
  bracketed : Bracketed log
  endings : log.filter Event.isEnding = deeds.filterMap Deed.ending?

namespace Session.Logs

variable {before middle after : Session κ target} {deeds more : List (Deed κ target)}
  {log others : List (Event κ)}

theorem refl (session : Session κ target) : session.Logs session [] [] where
  events := (List.append_nil _).symm
  bracketed := .nil
  endings := rfl

theorem append (first : before.Logs middle deeds log) (second : middle.Logs after more others) :
    before.Logs after (deeds ++ more) (log ++ others) where
  events := by rw [second.events, first.events, List.append_assoc]
  bracketed := first.bracketed.append second.bracketed
  endings := by rw [List.filter_append, List.filterMap_append, first.endings, second.endings]

theorem of_plain (events : after.events.toList = before.events.toList ++ log)
    (plain : ∀ event ∈ log, event.isPlain = true) (silent : deeds.filterMap Deed.ending? = []) :
    before.Logs after deeds log where
  events := events
  bracketed := .of_plain plain
  endings := by
    rw [silent, List.filter_eq_nil_iff]
    intro event member
    rw [Event.not_isEnding_of_isPlain (plain event member)]
    exact Bool.false_ne_true

/-- There are as many endings in the log as compilations that were not answered from the ledger. -/
theorem countP_eq (logs : before.Logs after deeds log) :
    log.countP Event.isEnding = deeds.countP Deed.isMiss := by
  rw [List.countP_eq_length_filter, logs.endings, List.length_filterMap_eq_countP]
  exact List.countP_congr fun deed _ => by rw [deed.isSome_ending?]

end Session.Logs

theorem Session.toList_events_report (session : Session κ target) (events : List (Event κ)) :
    (session.report events).events.toList = session.events.toList ++ events :=
  Array.toList_appendList

/-! ## Requests and endings -/

section Requests

variable {session later : Session κ target}

theorem Registry.isPlain_of_add {ρ : Type _} {registry grown : Registry κ ρ} {kind : κ} {rule : ρ}
    {events : List (Event κ)} (added : registry.add kind rule = .ok (grown, events)) :
    ∀ event ∈ events, event.isPlain = true := by
  obtain ⟨-, -, -, rfl⟩ := Registry.eq_of_add added
  unfold Registry.announcements
  split <;> simp [Event.isPlain]

/-- A request that runs no further script reports plain events, if any. -/
theorem Script.events_of_request {script rest : Script κ target α}
    (requested : script.afterRequest? session = some (rest, later)) :
    ∃ log, later.events.toList = session.events.toList ++ log ∧
      ∀ event ∈ log, event.isPlain = true := by
  cases script <;> simp only [Script.afterRequest?, Option.some.injEq, Prod.mk.injEq,
    reduceCtorEq] at requested <;> obtain ⟨-, rfl⟩ := requested
  case noting message details next =>
    exact ⟨_, session.toList_events_report _, List.forall_mem_singleton.mpr rfl⟩
  case addingRule category kind body next =>
    unfold Session.addRule Rulebook.add
    cases added : (session.compiler.rules.registry category).add kind (Rule.ofKind kind body) with
    | error error => exact ⟨[], (List.append_nil _).symm, by simp⟩
    | ok accepted =>
        exact ⟨accepted.2, Session.toList_events_report .., Registry.isPlain_of_add added⟩
  all_goals refine ⟨[], ?_, by simp⟩
  case registering circuit output next =>
    unfold Session.register
    split <;> exact (List.append_nil _).symm
  case finishing builder outputs next =>
    unfold Session.finishCircuit
    split <;> exact (List.append_nil _).symm
  all_goals exact (List.append_nil _).symm

/-- What is reported at the end of a run of a pipeline with an answer, where a failed run drops so
many pairs. -/
def Session.ending (after : Session κ target) (dropped : Nat)
    (answer : Except (Failure κ target) target.Output) : List (Event κ) :=
  match answer with
  | .ok _ => [after.lastWord answer]
  | .error _ => (if dropped = 0 then [] else [.rolledBack dropped]) ++ [after.lastWord answer]

theorem Session.ending_spec (after : Session κ target) (dropped : Nat)
    (answer : Except (Failure κ target) target.Output) :
    Event.Ending (after.ending dropped answer) ∧
      (after.ending dropped answer).filter Event.isEnding = [after.lastWord answer] := by
  unfold Session.ending Session.lastWord
  cases answer with
  | ok output => exact ⟨.compiled _, rfl⟩
  | error error =>
      by_cases none : dropped = 0
      · simp only [if_pos none]
        exact ⟨.failed _, rfl⟩
      · simp only [if_neg none]
        exact ⟨.rolledBack _ (Nat.pos_of_ne_zero none), rfl⟩

/-- The end of a pipeline reports its ending and closes the run. -/
theorem Session.events_of_conclude {ended after : Session κ target} {checkpoint : Nat}
    {circuit : Circuit κ} {result answer : Except (Failure κ target) target.Output}
    (concluded : ended.conclude checkpoint circuit result = (answer, after)) :
    after.events.toList = ended.events.toList ++
      (after.ending (ended.compiler.ledger.rollback checkpoint).2 answer ++ [.closed]) := by
  obtain ⟨error, aborted⟩ | ⟨output, compiler, -, -, succeeded⟩ :=
    ended.conclude_cases checkpoint circuit result
  · rw [aborted] at concluded
    cases concluded
    unfold Session.abort Session.ending
    rw [Session.toList_events_report]
    dsimp only
    split <;> rfl
  · rw [succeeded] at concluded
    cases concluded
    unfold Session.succeed
    rw [Session.toList_events_report]
    rfl

end Requests

end Deeds

/-! ## Runs -/

section Runs

variable {backend : Backend κ} {session ended : Session κ backend.target}

/-- The requests that run further scripts keep the log. -/
structure CallsLog (backend : Backend κ) (depth : Nat) : Prop where
  compile : ∀ {circuit : Circuit κ} {session later : Session κ backend.target}
    {answer : Except (Failure κ backend.target) backend.target.Output},
    (Calls.within backend depth).compile circuit session = some (answer, later) →
      ∃ log, session.Logs later ((Chronicler.within backend depth).compile circuit session) log
  apply : ∀ {category : Category} {kind : κ} {node : Node κ} {announced : Bool}
    {session later : Session κ backend.target}
    {answer : Except (Failure κ backend.target) (backend.target.Value category)},
    (Calls.within backend depth).apply category kind node announced session =
        some (answer, later) →
      ∃ log, session.Logs later
        ((Chronicler.within backend depth).apply category kind node announced session) log

theorem CallsLog.runWith {depth : Nat} (calls : CallsLog backend depth)
    (script : Script κ backend.target α) {outcome : Except (Failure κ backend.target) α}
    (ran : script.runWith (.within backend depth) session = some (outcome, ended)) :
    ∃ log, session.Logs ended (session.chronicle backend depth script) log := by
  refine Script.run_induction
    (motive := fun (script : Script κ backend.target α) session _ ended =>
      ∃ log, session.Logs ended (session.chronicle backend depth script) log)
    ?done ?request ?compiling ?applying script ran
  case done => exact fun outcome session => ⟨[], .refl session⟩
  case request =>
    intro script rest session later outcome ended requested ⟨others, rests⟩
    obtain ⟨log, events, plain⟩ := Script.events_of_request requested
    have silent : [script.firstDeed later].filterMap Deed.ending? = [] := by
      rw [List.filterMap_cons_none (script.ending?_firstDeed later), List.filterMap_nil]
    have split : session.chronicle backend depth script =
        [script.firstDeed later] ++ later.chronicle backend depth rest :=
      Script.chronicle_of_request requested
    rw [split]
    exact ⟨log ++ others, (Session.Logs.of_plain events plain silent).append rests⟩
  case compiling =>
    intro circuit next session answer later outcome ended compiled ⟨others, rests⟩
    obtain ⟨log, logs⟩ := calls.compile compiled
    have split : session.chronicle backend depth (.compiling circuit next) =
        (Chronicler.within backend depth).compile circuit session ++
          later.chronicle backend depth (next answer) :=
      Script.chronicle_compiling compiled
    rw [split]
    exact ⟨log ++ others, logs.append rests⟩
  case applying =>
    intro category kind node announced next session answer later outcome ended applied
      ⟨others, rests⟩
    obtain ⟨log, logs⟩ := calls.apply applied
    have split : session.chronicle backend depth (.applying category kind node announced next) =
        (Chronicler.within backend depth).apply category kind node announced session ++
          later.chronicle backend depth (next answer) :=
      Script.chronicle_applying applied
    rw [split]
    exact ⟨log ++ others, logs.append rests⟩

/-- A run of a pipeline with its ending is one bracket, and has one ending more. -/
theorem Session.Logs.run (depth : Nat) {circuit : Circuit κ} {deeds : List (Deed κ backend.target)}
    {log : List (Event κ)} {result answer : Except (Failure κ backend.target) backend.target.Output}
    {after : Session κ backend.target}
    (logs : (session.openRun backend circuit).Logs ended deeds log)
    (concluded : ended.conclude session.compiler.ledger.checkpoint circuit result =
      (answer, after)) :
    session.Logs after
      (deeds ++ [.compilation ⟨depth, circuit, session, some result, answer, after⟩])
      (.opened circuit.id backend.target.name :: (log ++
        (after.ending (ended.compiler.ledger.rollback session.compiler.ledger.checkpoint).2 answer
          ++ [.closed]))) := by
  obtain ⟨ending, lastWord⟩ := after.ending_spec
    (ended.compiler.ledger.rollback session.compiler.ledger.checkpoint).2 answer
  refine { events := ?_, bracketed := .run logs.bracketed ending .nil, endings := ?_ }
  · rw [Session.events_of_conclude concluded, logs.events, Session.openRun,
      Session.toList_events_report]
    simp only [List.append_assoc, List.cons_append, List.nil_append]
  · rw [List.filter_cons_of_neg Bool.false_ne_true, List.filter_append, List.filter_append,
      logs.endings, lastWord, List.filterMap_append]
    rfl

theorem callsLog (backend : Backend κ) : ∀ depth, CallsLog backend depth
  | 0 =>
    { compile := fun compiled => by cases compiled
      apply := fun applied => by cases applied }
  | depth + 1 => by
    have inner := callsLog backend depth
    refine { compile := ?_, apply := ?_ }
    · intro circuit session later answer compiled
      change Calls.compileWith backend _ circuit session = _ at compiled
      cases found : session.compiler.ledger.valueOf? circuit with
      | some output =>
          rw [Calls.compileWith_of_found _ found] at compiled
          cases compiled
          rw [Chronicler.compile_of_found found]
          exact ⟨_, .of_plain (session.toList_events_report _)
            (List.forall_mem_singleton.mpr rfl) rfl⟩
      | none =>
          obtain ⟨result, ended, ran, concluded⟩ := Calls.compileWith_of_missing _ found compiled
          obtain ⟨log, logs⟩ := inner.runWith _ ran
          rw [Chronicler.compile_of_missing found ran, concluded]
          exact ⟨_, logs.run depth concluded⟩
    · intro category kind node announced session later answer applied
      obtain ⟨error, missing, -, rfl⟩ | ⟨rule, found, ran⟩ := Calls.apply_cases applied
      · rw [Chronicler.apply_of_missing missing]
        exact ⟨[], .refl _⟩
      · rw [Chronicler.apply_of_found found]
        obtain ⟨log, logs⟩ := inner.runWith _ ran
        cases announced with
        | false => exact ⟨log, logs⟩
        | true =>
            have announcement : session.Logs (session.report [.compiling category kind]) []
                [.compiling category kind] :=
              .of_plain (session.toList_events_report _) (List.forall_mem_singleton.mpr rfl) rfl
            exact ⟨_, announcement.append logs⟩

end Runs

section Truth

variable {backend : Backend κ}

/-- What a compilation reports.  An answer from the ledger is one event.  Otherwise the run of the
pipeline is one span with the circuit: what the pipeline has reported, properly bracketed, and then
the ending, which tells how many circuits are compiled after a success, and after a failure how many
the ledger had gained, if any, and the error. -/
def Calls.Tells (backend : Backend κ) (depth : Nat) (circuit : Circuit κ)
    (before : Session κ backend.target)
    (answer : Except (Failure κ backend.target) backend.target.Output)
    (after : Session κ backend.target) : Prop :=
  match before.compiler.ledger.valueOf? circuit with
  | some output =>
    answer = .ok output ∧
      after.events.toList =
        before.events.toList ++ [.cacheHit circuit.id backend.target.name]
  | .none =>
    ∃ result ended log ending,
      (backend.pipeline circuit).runWith (.within backend depth) (before.openRun backend circuit) =
          some (result, ended) ∧
        ended.events.toList = (before.openRun backend circuit).events.toList ++ log ∧
        Bracketed log ∧
        after.events.toList = before.events.toList ++
          (.opened circuit.id backend.target.name :: (log ++ (ending ++ [.closed]))) ∧
        ending =
          match answer with
          | .ok _ => [.compiled after.compiler.ledger.size]
          | .error error =>
            (if before.compiler.ledger.size < ended.compiler.ledger.size then
              [.rolledBack (ended.compiler.ledger.size - before.compiler.ledger.size)] else [])
              ++ [.failed (error.mapOutput backend.target.outline).message]

theorem Calls.tells {depth : Nat} {circuit : Circuit κ} {before after : Session κ backend.target}
    {answer : Except (Failure κ backend.target) backend.target.Output}
    (consistent : before.compiler.ledger.Consistent)
    (compiled : (Calls.within backend (depth + 1)).compile circuit before =
      some (answer, after)) : Calls.Tells backend depth circuit before answer after := by
  change Calls.compileWith backend _ circuit before = _ at compiled
  unfold Calls.Tells
  cases found : before.compiler.ledger.valueOf? circuit with
  | some output =>
      rw [Calls.compileWith_of_found _ found] at compiled
      cases compiled
      exact ⟨rfl, before.toList_events_report _⟩
  | none =>
      obtain ⟨result, ended, ran, concluded⟩ := Calls.compileWith_of_missing _ found compiled
      obtain ⟨log, logs⟩ := (callsLog backend depth).runWith _ ran
      have dropped := (Session.ledgerGrows_of_pipeline ran).rollback consistent
      have whole := (logs.run depth concluded).events
      refine ⟨result, ended, log, _, ran, logs.events, logs.bracketed, whole, ?_⟩
      rw [dropped]
      unfold Session.ending Session.lastWord
      cases answer with
      | ok output => rfl
      | error error =>
          dsimp only
          by_cases grown : before.compiler.ledger.size < ended.compiler.ledger.size
          · rw [if_pos grown, if_neg (by omega)]
          · rw [if_neg grown, if_pos (by omega)]

/-- The event log is truthful.  At every moment of every run of a compiler, a compilation that is
answered has reported its answer from the ledger or the run of its pipeline with how it ended; and
whatever a script does, it leaves a log in which runs are properly bracketed, with the endings of
the compilations that were not answered from the ledger in their order, one for each. -/
theorem eventLog_truthful {first : Moment backend}
    (reachable : first.session.compiler.Reachable backend) :
    (∀ (call : Moment backend) (depth : Nat), first.Reaches call → call.depth = depth + 1 →
      ∀ circuit answer after,
        (Calls.within backend call.depth).compile circuit call.session = some (answer, after) →
          Calls.Tells backend depth circuit call.session answer after) ∧
      ∀ outcome ended,
        first.session.perform backend first.depth first.script = some (outcome, ended) →
          ∃ log, ended.events.toList = first.session.events.toList ++ log ∧ Bracketed log ∧
            log.filter Event.isEnding =
              (first.session.chronicle backend first.depth first.script).filterMap Deed.ending? ∧
            log.countP Event.isEnding =
              (first.session.chronicle backend first.depth first.script).countP Deed.isMiss := by
  constructor
  · intro call depth reached deep circuit answer after compiled
    have grown := reached.related Session.ledgerGrows_kept Session.ledgerGrows_concludes
    rw [deep] at compiled
    exact Calls.tells (grown reachable.consistent).1 compiled
  · intro outcome ended performed
    obtain ⟨log, logs⟩ := (callsLog backend first.depth).runWith _ performed
    exact ⟨log, logs.events, logs.bracketed, logs.endings, logs.countP_eq⟩

/-- The inner run stands in the outer one and has succeeded; the outer one has failed, and drops the
pair of the inner one. -/
theorem eventLog_truthful_nesting :
    Nesting.start.session.compiler.Reachable Recording.backend ∧
      Nesting.start.Reaches Nesting.start ∧ Nesting.start.depth = 3 + 1 ∧
      ∃ ended log,
        (Calls.within Recording.backend 4).compile Nesting.outer Nesting.session =
            some (.error (.pipeline "injected failure"), ended) ∧
          Calls.Tells Recording.backend 3 Nesting.outer Nesting.session
            (.error (.pipeline "injected failure")) ended ∧
          ended.events.toList = log ∧ Bracketed log ∧
          log =
            [.opened ⟨2⟩ "recording", .compiling .layer .leaf,
              .opened ⟨1⟩ "recording", .compiling .layer .plainProduct, .compiled 1, .closed,
              .compiling .layer .plainProduct, .rolledBack 1,
              .failed "compilation pipeline failed: injected failure", .closed] ∧
          log.countP Event.isEnding = 2 := by
  obtain ⟨tells, logged⟩ := eventLog_truthful Nesting.reachable
  obtain ⟨log, events, bracketed, -, counted⟩ := logged _ _ rfl
  exact ⟨Nesting.reachable, .refl, rfl, _, log, rfl, tells Nesting.start 3 .refl rfl _ _ _ rfl,
    events, bracketed, events.symm.trans rfl, counted.trans rfl⟩

end Truth

end Circuitry
