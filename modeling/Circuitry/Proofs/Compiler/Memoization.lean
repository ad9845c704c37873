import Circuitry.Proofs.Compiler.Atomicity

/-!
# Permanent memoization

Once a circuit has an output, it keeps it: whatever the compiler does afterwards, a compilation of
the circuit is answered from the ledger with an equal output, and the output leads back to the
circuit.  The answer depends on the ledger alone, so no pipeline and no rule has a part in it.
-/

namespace Circuitry

variable {κ : Type} [Vocabulary κ]

namespace Compiler

section Settled

variable {target : Target} {compiler later : Compiler κ target}
  {circuit : Circuit κ} {output : target.Output}

theorem valueOf?_of_register
    (registered : compiler.register circuit output = .ok later) :
    later.ledger.valueOf? circuit = some output := by
  obtain ⟨ledger, accepted, rfl⟩ := Compiler.eq_of_register registered
  obtain ⟨-, -, rfl⟩ := (Ledger.register_eq_ok_iff circuit output).mp accepted
  exact List.lookup_cons_self

/-- A result that is settled is equal to what the circuit is registered for. -/
theorem valueOf?_of_settle (settled : compiler.settle circuit output = .ok later) :
    ∃ known, later.ledger.valueOf? circuit = some known ∧ (known == output) = true := by
  obtain ⟨known, found, same, rfl⟩ | ⟨-, registered⟩ := Compiler.settle_cases settled
  · exact ⟨known, found, same⟩
  · exact ⟨output, valueOf?_of_register registered, BEq.rfl⟩

end Settled

variable {backend : Backend κ}

/-- The compiler gives an output to a circuit, by compiling it or by registering the output. -/
def Memoizes (backend : Backend κ) (circuit : Circuit κ) (output : backend.target.Output)
    (compiler later : Compiler κ backend.target) : Prop :=
  ∃ (depth : Nat) (session ended : Session κ backend.target),
    session.compiler = compiler ∧ ended.compiler = later ∧
      (session.perform backend depth (Script.compile circuit) = some (.ok output, ended) ∨
        session.perform backend depth (Script.register circuit output) = some (.ok (), ended))

theorem Memoizes.performs {circuit : Circuit κ} {output : backend.target.Output}
    {compiler later : Compiler κ backend.target}
    (memoizes : Memoizes backend circuit output compiler later) :
    Performs backend compiler later := by
  obtain ⟨depth, session, ended, same, rfl, compiled | registered⟩ := memoizes
  · exact ⟨⟨depth, Script.compile circuit, session⟩, .ok output, ended, same, compiled, rfl⟩
  · exact ⟨⟨depth, Script.register circuit output, session⟩, .ok (), ended, same, registered, rfl⟩

end Compiler

section Found

variable {backend : Backend κ} {circuit : Circuit κ} {output : backend.target.Output}
  {session ended : Session κ backend.target}

theorem Calls.valueOf?_of_compileWith {calls : Calls κ backend.target}
    (compiled : Calls.compileWith backend calls circuit session = some (.ok output, ended)) :
    ∃ known, ended.compiler.ledger.valueOf? circuit = some known ∧ (known == output) = true := by
  cases found : session.compiler.ledger.valueOf? circuit with
  | some known =>
      rw [Calls.compileWith_of_found calls found] at compiled
      cases compiled
      exact ⟨_, found, BEq.rfl⟩
  | none =>
      obtain ⟨result, last, -, concluded⟩ := Calls.compileWith_of_missing calls found compiled
      obtain ⟨cause, aborted⟩ | ⟨settledOutput, compiler, -, settled, succeeded⟩ :=
        last.conclude_cases session.compiler.ledger.checkpoint circuit result
      · rw [aborted] at concluded
        cases concluded
      · rw [succeeded] at concluded
        cases concluded
        exact Compiler.valueOf?_of_settle settled

theorem Session.valueOf?_of_perform_compile {depth : Nat}
    (performed : session.perform backend depth (Script.compile circuit) =
      some (.ok output, ended)) :
    ∃ known, ended.compiler.ledger.valueOf? circuit = some known ∧ (known == output) = true := by
  unfold Session.perform Script.compile Script.runWith at performed
  split at performed
  · contradiction
  · next answer middle compiled =>
      cases performed
      cases depth with
      | zero => cases compiled
      | succ depth => exact Calls.valueOf?_of_compileWith compiled

theorem Session.valueOf?_of_perform_register {depth : Nat}
    (performed : session.perform backend depth (Script.register circuit output) =
      some (.ok (), ended)) :
    ended.compiler.ledger.valueOf? circuit = some output := by
  unfold Session.perform Script.register Script.runWith Session.register at performed
  split at performed
  next answer middle registered =>
    split at registered
    · next compiler accepted =>
        cases registered
        cases performed
        exact Compiler.valueOf?_of_register accepted
    · cases registered
      cases performed

end Found

variable {backend : Backend κ}

theorem Compiler.Memoizes.valueOf? {circuit : Circuit κ} {output : backend.target.Output}
    {compiler later : Compiler κ backend.target}
    (memoizes : Compiler.Memoizes backend circuit output compiler later) :
    ∃ known, later.ledger.valueOf? circuit = some known ∧ (known == output) = true := by
  obtain ⟨depth, session, ended, -, rfl, compiled | registered⟩ := memoizes
  · exact Session.valueOf?_of_perform_compile compiled
  · exact ⟨output, Session.valueOf?_of_perform_register registered, BEq.rfl⟩

/-- An output that is equal to a registered one leads to the circuit that is registered for it. -/
theorem Compiler.circuitOf_of_valueOf? {compiler : Compiler κ backend.target}
    (consistent : compiler.ledger.Consistent) {circuit : Circuit κ}
    {known output : backend.target.Output}
    (found : compiler.ledger.valueOf? circuit = some known) (same : (known == output) = true) :
    ∃ holder, compiler.circuitOf output = .ok holder ∧ holder.id = circuit.id := by
  obtain ⟨held, member, sameCircuit, rfl⟩ :=
    (consistent.valueOf?_eq_some_iff circuit known).mp found
  have holder := (consistent.keyOf?_eq_some_iff output held.1).mpr
    ⟨held, member, PartialEquivBEq.symm same, rfl⟩
  refine ⟨held.1, ?_, ((Circuit.beq_iff circuit held.1).mp sameCircuit).symm⟩
  unfold Compiler.circuitOf
  rw [holder]

/-- Memoization is permanent.  After a circuit has got an output and the compiler has performed any
scripts since, a compilation of the circuit gives an equal output with any pipeline, from any
session with that ledger; it changes nothing and reports only that it was answered from the
ledger.  The output leads back to the circuit.  Moreover no script that a compiler performs takes a
pair out of its ledger. -/
theorem memoization_permanent {circuit : Circuit κ} {output : backend.target.Output}
    {first second third : Compiler κ backend.target}
    (reachable : first.Reachable backend)
    (memoizes : Compiler.Memoizes backend circuit output first second)
    (performed : Relation.ReflTransGen (Compiler.Performs backend) second third) :
    (∃ known, (known == output) = true ∧
      ∀ (pipeline : Circuit κ → Script κ backend.target backend.target.Output) (depth : Nat)
        (session : Session κ backend.target), session.compiler.ledger = third.ledger →
          ∃ ended,
            (Calls.within ⟨backend.target, pipeline⟩ (depth + 1)).compile circuit session =
                some (.ok known, ended) ∧
              ended.compiler = session.compiler ∧
              ended.events = session.events.push (.cacheHit circuit.id backend.target.name) ∧
              ended.invocations = session.invocations ∧ ended.supply = session.supply) ∧
      (∃ holder, third.circuitOf output = .ok holder ∧ holder.id = circuit.id) ∧
      ∀ before after : Compiler κ backend.target, before.Reachable backend →
        before.Performs backend after → before.ledger.Keeps after.ledger := by
  obtain ⟨known, found, same⟩ := memoizes.valueOf?
  have secondConsistent := (memoizes.performs.grows reachable.consistent).1
  have grows := Compiler.grows_of_performs performed
  have stillFound := (grows.keeps secondConsistent).valueOf circuit known found
  refine ⟨⟨known, same, ?_⟩, ?_, ?_⟩
  · intro pipeline depth session sameLedger
    rw [← sameLedger] at stillFound
    exact ⟨_, Calls.compileWith_of_found _ stillFound, rfl, rfl, rfl, rfl⟩
  · exact Compiler.circuitOf_of_valueOf? (grows secondConsistent).1 stillFound same
  · intro before after reachableBefore performs
    exact performs.grows.keeps reachableBefore.consistent

namespace Nesting

def innerTape : Recording.Tape := ⟨0, 1, ["product"]⟩

/-- The compiler that has compiled the inner circuit, after a number of pipeline runs. -/
def knowing (runs : Nat) : Compiler Kind (Recording.target Kind) :=
  { compiler with
    state := ({ pipelineRuns := runs, switches := { failAfterLayers := some 2 }, lastNumber := 1 } :
      Recording.State Kind)
    ledger := .ofPairs [(inner, innerTape)] }

end Nesting

/-- The inner circuit is compiled, the outer one then fails after its rule has compiled the inner
one again, and the inner one still has its output. -/
theorem memoization_permanent_nesting :
    Nesting.compiler.Reachable Recording.backend ∧
      Compiler.Memoizes Recording.backend Nesting.inner Nesting.innerTape Nesting.compiler
        (Nesting.knowing 1) ∧
      Relation.ReflTransGen (Compiler.Performs Recording.backend) (Nesting.knowing 1)
        (Nesting.knowing 2) ∧
      ∃ known ended, (known == Nesting.innerTape) = true ∧
        (Calls.within Recording.backend 1).compile Nesting.inner ⟨Nesting.knowing 2, #[], {}, []⟩ =
          some (.ok known, ended) ∧
        ended.compiler = Nesting.knowing 2 := by
  have memoizes : Compiler.Memoizes Recording.backend Nesting.inner Nesting.innerTape
      Nesting.compiler (Nesting.knowing 1) :=
    ⟨3, Nesting.session, _, rfl, rfl, Or.inl rfl⟩
  have failed : Compiler.Performs Recording.backend (Nesting.knowing 1) (Nesting.knowing 2) :=
    ⟨⟨4, Script.compile Nesting.outer, ⟨Nesting.knowing 1, #[], {}, []⟩⟩,
      .error (.pipeline "injected failure"), _, rfl, rfl, rfl⟩
  obtain ⟨⟨known, same, answered⟩, -, -⟩ :=
    memoization_permanent Nesting.reachable memoizes (.single failed)
  obtain ⟨ended, compiled, unchanged, -, -, -⟩ :=
    answered Recording.pipeline 0 ⟨Nesting.knowing 2, #[], {}, []⟩ rfl
  exact ⟨Nesting.reachable, memoizes, .single failed, known, ended, same, compiled, unchanged⟩

end Circuitry
