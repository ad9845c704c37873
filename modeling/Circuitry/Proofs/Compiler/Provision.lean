import Circuitry.Proofs.Compiler.Atomicity
import Circuitry.Proofs.Compiler.Quiet

/-!
# How circuits get outputs

A circuit that a ledger knows at the end of a run, but not at its beginning, has got its output by
a request of the run: the circuit was compiled, or a registration of it was accepted.  So a run
without such requests leaves the ledger as it is.
-/

namespace Circuitry

variable {κ : Type} [Vocabulary κ]

/-- The circuit that the next request may give an output: one that is to be compiled, or whose
registration is accepted. -/
def Moment.provides? {backend : Backend κ} (moment : Moment backend) : Option (Circuit κ) :=
  match moment.script with
  | .compiling circuit _ => some circuit
  | .registering circuit output _ =>
    match moment.session.compiler.register circuit output with
    | .ok _ => some circuit
    | .error _ => none
  | _ => none

/-- The ledger knows the circuit in the later session but not in the first one. -/
def Session.Learns {target : Target} (session later : Session κ target) (circuit : Circuit κ) :
    Prop :=
  session.compiler.ledger.valueOf? circuit = none ∧
    later.compiler.ledger.valueOf? circuit ≠ none

theorem Session.Learns.elim {target : Target} {session later : Session κ target}
    {circuit : Circuit κ} {goal : Prop} (learns : session.Learns later circuit)
    (same : later.compiler.ledger = session.compiler.ledger) : goal :=
  absurd (same ▸ learns.1) learns.2

theorem Ledger.valueOf?_of_register {α β : Type} [BEq α] [BEq β] {ledger grown : Ledger α β}
    {key other : α} {value : β} (accepted : ledger.register key value = .ok grown)
    (different : (other == key) = false) : grown.valueOf? other = ledger.valueOf? other := by
  obtain ⟨-, -, rfl⟩ := (Ledger.register_eq_ok_iff key value).mp accepted
  unfold Ledger.valueOf?
  simp only [List.lookup_cons, different]

section Requests

variable {target : Target} {circuit other : Circuit κ}

theorem Compiler.valueOf?_of_register_other {compiler later : Compiler κ target}
    {output : target.Output} (registered : compiler.register circuit output = .ok later)
    (different : (other == circuit) = false) :
    later.ledger.valueOf? other = compiler.ledger.valueOf? other := by
  obtain ⟨ledger, accepted, rfl⟩ := Compiler.eq_of_register registered
  exact Ledger.valueOf?_of_register accepted different

theorem Compiler.valueOf?_of_settle_other {compiler later : Compiler κ target}
    {output : target.Output} (settled : compiler.settle circuit output = .ok later)
    (different : (other == circuit) = false) :
    later.ledger.valueOf? other = compiler.ledger.valueOf? other := by
  obtain ⟨known, -, -, rfl⟩ | ⟨-, registered⟩ := Compiler.settle_cases settled
  · rfl
  · exact Compiler.valueOf?_of_register_other registered different

/-- The end of a pipeline gives outputs to no other circuit. -/
theorem Session.valueOf?_conclude_eq_none {ended : Session κ target} (checkpoint : Nat)
    (result : Except (Failure κ target) target.Output)
    (missing : ended.compiler.ledger.valueOf? other = none)
    (different : (other == circuit) = false) :
    (ended.conclude checkpoint circuit result).2.compiler.ledger.valueOf? other = none := by
  obtain ⟨cause, aborted⟩ | ⟨output, compiler, -, settled, succeeded⟩ :=
    ended.conclude_cases checkpoint circuit result
  · rw [aborted]
    exact Ledger.valueOf?_rollback_eq_none missing checkpoint
  · rw [succeeded]
    exact (Compiler.valueOf?_of_settle_other settled different).trans missing

/-- A request by which the ledger learns of a circuit is an accepted registration of it. -/
theorem Moment.provides?_of_afterRequest? {backend : Backend κ} {depth : Nat} {Result : Type}
    {script rest : Script κ backend.target Result} {session later : Session κ backend.target}
    (requested : script.afterRequest? session = some (rest, later))
    (learns : session.Learns later circuit) :
    ∃ asked, (⟨depth, script, session⟩ : Moment backend).provides? = some asked ∧
      (circuit == asked) = true := by
  cases script <;> simp only [Script.afterRequest?, Option.some.injEq, Prod.mk.injEq,
    reduceCtorEq] at requested <;> obtain ⟨-, rfl⟩ := requested
  case registering asked output next =>
    unfold Session.Learns Session.register at learns
    unfold Moment.provides?
    cases registered : session.compiler.register asked output with
    | error cause =>
        simp only [registered] at learns
        exact absurd learns.1 learns.2
    | ok compiler =>
        simp only [registered] at learns ⊢
        refine ⟨asked, rfl, ?_⟩
        cases same : circuit == asked with
        | true => rfl
        | false =>
            have unchanged := Compiler.valueOf?_of_register_other registered same
            exact absurd (unchanged.trans learns.1) learns.2
  case addingRule category kind body next =>
    refine learns.elim ?_
    unfold Session.addRule
    split <;> rfl
  case finishing builder outputs next =>
    refine learns.elim ?_
    rw [Session.compiler_finishCircuit]
  all_goals exact learns.elim rfl

end Requests

variable {backend : Backend κ} {circuit : Circuit κ}

/-- A moment of a run, from its start on, may give an output to the circuit. -/
def Moment.Provides (start : Moment backend) (circuit : Circuit κ) : Prop :=
  ∃ moment : Moment backend, start.Reaches moment ∧
    ∃ asked, moment.provides? = some asked ∧ (circuit == asked) = true

theorem Moment.Provides.of_next {moment later : Moment backend} (next : Moment.Next moment later)
    (provides : later.Provides circuit) : moment.Provides circuit := by
  obtain ⟨provider, reached, provided⟩ := provides
  exact ⟨provider, .head next reached, provided⟩

/-- When the ledger learns of the circuit by a request that runs further scripts, a moment from that
request on provides it. -/
structure Moment.CallsProvide (backend : Backend κ) (depth : Nat) (circuit : Circuit κ) : Prop where
  compile : ∀ {Result : Type} {asked : Circuit κ}
    {next : Except (Failure κ backend.target) backend.target.Output →
      Script κ backend.target Result}
    {session later : Session κ backend.target}
    {answer : Except (Failure κ backend.target) backend.target.Output},
    (Calls.within backend depth).compile asked session = some (answer, later) →
      session.Learns later circuit →
        Moment.Provides (⟨depth, .compiling asked next, session⟩ : Moment backend) circuit
  apply : ∀ {Result : Type} {category : Category} {kind : κ} {node : Node κ} {announced : Bool}
    {next : Except (Failure κ backend.target) (backend.target.Value category) →
      Script κ backend.target Result}
    {session later : Session κ backend.target}
    {answer : Except (Failure κ backend.target) (backend.target.Value category)},
    (Calls.within backend depth).apply category kind node announced session =
        some (answer, later) →
      session.Learns later circuit →
        Moment.Provides
          (⟨depth, .applying category kind node announced next, session⟩ : Moment backend) circuit

theorem Moment.CallsProvide.runWith {depth : Nat}
    (provide : Moment.CallsProvide backend depth circuit)
    {Result : Type} (script : Script κ backend.target Result)
    {session ended : Session κ backend.target}
    {outcome : Except (Failure κ backend.target) Result}
    (ran : script.runWith (.within backend depth) session = some (outcome, ended)) :
    session.Learns ended circuit →
      Moment.Provides (⟨depth, script, session⟩ : Moment backend) circuit := by
  refine Script.run_induction
    (motive := fun script session _ ended => session.Learns ended circuit →
      Moment.Provides (⟨depth, script, session⟩ : Moment backend) circuit)
    ?done ?request ?compiling ?applying script ran
  case done => exact fun _ _ learns => learns.elim rfl
  case request =>
    intro script rest session later outcome ended requested inductionHypothesis learns
    by_cases still : later.compiler.ledger.valueOf? circuit = none
    · exact (inductionHypothesis ⟨still, learns.2⟩).of_next (.request requested)
    · exact ⟨_, .refl, Moment.provides?_of_afterRequest? requested ⟨learns.1, still⟩⟩
  case compiling =>
    intro asked next session answer later outcome ended compiled inductionHypothesis learns
    by_cases still : later.compiler.ledger.valueOf? circuit = none
    · exact (inductionHypothesis ⟨still, learns.2⟩).of_next (.passCompilation compiled)
    · exact provide.compile compiled ⟨learns.1, still⟩
  case applying =>
    intro category kind node announced next session answer later outcome ended applied
      inductionHypothesis learns
    by_cases still : later.compiler.ledger.valueOf? circuit = none
    · exact (inductionHypothesis ⟨still, learns.2⟩).of_next (.passRule applied)
    · exact provide.apply applied ⟨learns.1, still⟩

/-- Nested pipelines and rules are runs with the answers of one level down. -/
theorem Moment.callsProvide (backend : Backend κ) (circuit : Circuit κ) :
    ∀ depth, Moment.CallsProvide backend depth circuit
  | 0 =>
    { compile := fun compiled => by cases compiled
      apply := fun applied => by cases applied }
  | depth + 1 => by
    have inner := Moment.callsProvide backend circuit depth
    refine { compile := ?_, apply := ?_ }
    · intro Result asked next session later answer compiled learns
      cases same : circuit == asked with
      | true => exact ⟨_, .refl, asked, rfl, same⟩
      | false =>
          change Calls.compileWith backend _ asked session = _ at compiled
          cases found : session.compiler.ledger.valueOf? asked with
          | some output =>
              rw [Calls.compileWith_of_found _ found] at compiled
              cases compiled
              exact learns.elim rfl
          | none =>
              obtain ⟨result, last, ran, concluded⟩ := Calls.compileWith_of_missing _ found compiled
              have known : last.compiler.ledger.valueOf? circuit ≠ none := by
                intro absent
                refine learns.2 ?_
                have unknown := Session.valueOf?_conclude_eq_none session.compiler.ledger.checkpoint
                  result absent same
                rw [concluded] at unknown
                exact unknown
              exact (inner.runWith _ ran ⟨learns.1, known⟩).of_next (.enterPipeline found)
    · intro Result category kind node announced next session later answer applied learns
      obtain ⟨error, -, -, rfl⟩ | ⟨rule, found, ran⟩ := Calls.apply_cases applied
      · exact learns.elim rfl
      · refine (inner.runWith _ ran ⟨?_, learns.2⟩).of_next (.enterRule found)
        split <;> exact learns.1

theorem Moment.provides_of_runWith {depth : Nat} {Result : Type}
    {script : Script κ backend.target Result} {session ended : Session κ backend.target}
    {outcome : Except (Failure κ backend.target) Result}
    (ran : script.runWith (.within backend depth) session = some (outcome, ended))
    (learns : session.Learns ended circuit) :
    Moment.Provides (⟨depth, script, session⟩ : Moment backend) circuit :=
  (Moment.callsProvide backend circuit depth).runWith script ran learns

/-- A run that provides for no circuit leaves the ledger as it is. -/
theorem Moment.ledger_of_runWith {depth : Nat} {Result : Type}
    {script : Script κ backend.target Result} {session ended : Session κ backend.target}
    {outcome : Except (Failure κ backend.target) Result}
    (consistent : session.compiler.ledger.Consistent)
    (ran : script.runWith (.within backend depth) session = some (outcome, ended))
    (nothing : ∀ moment, Moment.Reaches (⟨depth, script, session⟩ : Moment backend) moment →
      moment.provides? = none) :
    ended.compiler.ledger = session.compiler.ledger := by
  obtain ⟨endedConsistent, newer, split⟩ := Session.ledgerGrows_of_runWith ran consistent
  cases newer with
  | nil =>
      have sameForward : session.compiler.ledger.forward = ended.compiler.ledger.forward := split
      rw [endedConsistent.listed, ← sameForward, ← consistent.listed]
  | cons pair newer =>
      have unshared := endedConsistent.unshared
      rw [← split] at unshared
      have apart := (List.pairwise_cons.mp unshared).1
      have missing : session.compiler.ledger.valueOf? pair.1 = none :=
        (Ledger.valueOf?_eq_none_iff pair.1).mpr fun held member =>
          (apart held (List.mem_append_right newer member)).1
      have known : ended.compiler.ledger.valueOf? pair.1 = some pair.2 := by
        refine (endedConsistent.valueOf?_eq_some_iff pair.1 pair.2).mpr ⟨pair, ?_, BEq.rfl, rfl⟩
        rw [← split]
        exact List.mem_cons_self
      obtain ⟨moment, reached, asked, provided, -⟩ :=
        Moment.provides_of_runWith ran ⟨missing, known ▸ Option.some_ne_none pair.2⟩
      rw [nothing moment reached] at provided
      cases provided

end Circuitry
