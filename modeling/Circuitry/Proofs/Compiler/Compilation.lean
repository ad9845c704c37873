import Circuitry.Proofs.Compiler.Atomicity
import Circuitry.Proofs.Compiler.Quiet

/-!
# Compilations whose pipeline leaves the tables

When a pipeline neither adds rules nor registers anything, a compilation leaves the rules as they
are, and the ledger gains at most one pair: that of the circuit and of the output that the pipeline
has made.
-/

namespace Circuitry

variable {κ : Type} [Vocabulary κ]

theorem Compiler.forward_of_register {target : Target} {compiler later : Compiler κ target}
    {circuit : Circuit κ} {output : target.Output}
    (registered : compiler.register circuit output = .ok later) :
    later.rules = compiler.rules ∧
      later.ledger.forward = (circuit, output) :: compiler.ledger.forward := by
  obtain ⟨ledger, accepted, rfl⟩ := Compiler.eq_of_register registered
  obtain ⟨-, -, rfl⟩ := (Ledger.register_eq_ok_iff circuit output).mp accepted
  exact ⟨rfl, rfl⟩

theorem Compiler.forward_of_settle {target : Target} {compiler later : Compiler κ target}
    {circuit : Circuit κ} {output : target.Output}
    (missing : compiler.ledger.valueOf? circuit = none)
    (settled : compiler.settle circuit output = .ok later) :
    later.rules = compiler.rules ∧
      later.ledger.forward = (circuit, output) :: compiler.ledger.forward := by
  obtain ⟨known, found, -⟩ | ⟨-, registered⟩ := Compiler.settle_cases settled
  · rw [missing] at found
    contradiction
  · exact Compiler.forward_of_register registered

section Compilation

variable {backend : Backend κ} {circuit : Circuit κ} {session ended : Session κ backend.target}
  {answer : Except (Failure κ backend.target) backend.target.Output}

/-- The compilation has run the pipeline and registered its output. -/
def Calls.Registers (backend : Backend κ) (circuit : Circuit κ)
    (session : Session κ backend.target)
    (answer : Except (Failure κ backend.target) backend.target.Output)
    (ended : Session κ backend.target) : Prop :=
  ∃ depth output last, answer = .ok output ∧
    (backend.pipeline circuit).runWith (.within backend depth) (session.openRun backend circuit) =
      some (.ok output, last) ∧
    ended.compiler.ledger.forward = (circuit, output) :: session.compiler.ledger.forward

/-- A compilation is answered from the ledger or fails, and then leaves the tables, or it registers
an output of the pipeline. -/
theorem Calls.compile_cases {depth : Nat}
    (leaves : ∀ {depth result last},
      (backend.pipeline circuit).runWith (.within backend depth)
          (session.openRun backend circuit) = some (result, last) →
        session.compiler.SameTables last.compiler)
    (compiled : (Calls.within backend depth).compile circuit session = some (answer, ended)) :
    (session.compiler.SameTables ended.compiler ∧
        ∀ output, answer = .ok output →
          session.compiler.ledger.valueOf? circuit = some output) ∨
      ended.compiler.rules = session.compiler.rules ∧
        Calls.Registers backend circuit session answer ended := by
  cases depth with
  | zero => cases compiled
  | succ depth =>
      change Calls.compileWith backend _ circuit session = _ at compiled
      cases found : session.compiler.ledger.valueOf? circuit with
      | some output =>
          rw [Calls.compileWith_of_found _ found] at compiled
          cases compiled
          refine Or.inl ⟨⟨rfl, rfl⟩, fun other same => ?_⟩
          cases same
          rfl
      | none =>
          obtain ⟨result, last, ran, concluded⟩ := Calls.compileWith_of_missing _ found compiled
          obtain ⟨sameRules, sameLedger⟩ := leaves ran
          obtain ⟨cause, aborted⟩ | ⟨output, compiler, rfl, settled, succeeded⟩ :=
            last.conclude_cases session.compiler.ledger.checkpoint circuit result
          · rw [aborted] at concluded
            cases concluded
            refine Or.inl ⟨⟨sameRules, ?_⟩, fun other same => nomatch same⟩
            rw [Session.ledger_of_abort, sameLedger, Ledger.rollback_self]
          · rw [succeeded] at concluded
            cases concluded
            obtain ⟨settledRules, forward⟩ :=
              Compiler.forward_of_settle (sameLedger.symm ▸ found) settled
            rw [sameLedger] at forward
            exact Or.inr ⟨settledRules.trans sameRules, depth, output, last, rfl, ran, forward⟩

/-- A compilation that succeeds gives the output that the ledger has, or that of the pipeline. -/
theorem Session.output_of_perform_compile {depth : Nat} {output : backend.target.Output}
    (performed : session.perform backend (depth + 1) (Script.compile circuit) =
      some (.ok output, ended)) :
    session.compiler.ledger.valueOf? circuit = some output ∨
      session.compiler.ledger.valueOf? circuit = none ∧
        ∃ last, (backend.pipeline circuit).runWith (.within backend depth)
          (session.openRun backend circuit) = some (.ok output, last) := by
  rw [Session.perform_compile] at performed
  change Calls.compileWith backend _ circuit session = _ at performed
  cases found : session.compiler.ledger.valueOf? circuit with
  | some known =>
      rw [Calls.compileWith_of_found _ found] at performed
      cases performed
      exact Or.inl rfl
  | none =>
      obtain ⟨result, last, ran, concluded⟩ := Calls.compileWith_of_missing _ found performed
      obtain ⟨error, aborted⟩ | ⟨made, compiler, rfl, -, succeeded⟩ :=
        last.conclude_cases session.compiler.ledger.checkpoint circuit result
      · cases aborted.symm.trans concluded
      · cases succeeded.symm.trans concluded
        exact Or.inr ⟨rfl, last, ran⟩

end Compilation

end Circuitry
