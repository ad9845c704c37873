import Circuitry.Proofs.Compiler.Provision

/-!
# The outcome of a compilation

A compilation that is not answered from the ledger runs the pipeline, which may register anything,
the circuit included, and may compile further circuits.  How the compilation ends depends on two
things only: the result of the pipeline, and the ledger at the moment when the pipeline returns.
-/

namespace Circuitry

variable {κ : Type} [Vocabulary κ]

/-- A side of the pairs in a ledger of compiled circuits. -/
inductive LedgerSide
  | circuit
  | output
deriving DecidableEq, Repr

/-- The side on which something is registered already, if that is what the error says. -/
def CompileError.takenSide? {γ : Type} : CompileError κ γ → Option LedgerSide
  | .circuitTaken _ _ => some .circuit
  | .conflictingResult _ _ _ => some .circuit
  | .outputTaken _ _ => some .output
  | _ => none

/-- The answer is an error that finds a side taken. -/
def Failure.Refuses {target : Target} {α : Type} (answer : Except (Failure κ target) α)
    (side : LedgerSide) (error : Failure κ target) : Prop :=
  answer = .error error ∧ error.takenSide? = some side

section Ledger

variable {γ : Type} [BEq γ]

/-- The circuit is registered, for an equal output. -/
def Ledger.Agrees (ledger : Ledger (Circuit κ) γ) (circuit : Circuit κ) (output : γ) : Prop :=
  ∃ known, ledger.valueOf? circuit = some known ∧ (known == output) = true

/-- Neither the circuit nor the output is registered. -/
def Ledger.Free (ledger : Ledger (Circuit κ) γ) (circuit : Circuit κ) (output : γ) : Prop :=
  ledger.valueOf? circuit = none ∧ ledger.keyOf? output = none

end Ledger

section Settle

variable {target : Target} {compiler : Compiler κ target} {circuit : Circuit κ}
  {output : target.Output}

theorem Compiler.settle_of_agrees (agrees : compiler.ledger.Agrees circuit output) :
    compiler.settle circuit output = .ok compiler := by
  obtain ⟨known, found, same⟩ := agrees
  unfold Compiler.settle
  rw [found]
  exact if_pos same

theorem Compiler.settle_of_different {known : target.Output}
    (found : compiler.ledger.valueOf? circuit = some known)
    (different : (known == output) = false) :
    compiler.settle circuit output = .error (.conflictingResult circuit.id known output) := by
  unfold Compiler.settle
  rw [found]
  exact if_neg (Bool.eq_false_iff.mp different)

theorem Compiler.settle_of_held {holder : Circuit κ}
    (missing : compiler.ledger.valueOf? circuit = none)
    (held : compiler.ledger.keyOf? output = some holder) :
    compiler.settle circuit output = .error (.outputTaken output holder.id) := by
  unfold Compiler.settle Compiler.register Ledger.register
  simp only [missing, held]
  rfl

theorem Compiler.settle_of_free (consistent : compiler.ledger.Consistent)
    (free : compiler.ledger.Free circuit output) :
    compiler.settle circuit output =
      .ok { compiler with
        ledger := .ofPairs ((circuit, output) :: compiler.ledger.forward) } := by
  have accepted := (Ledger.register_eq_ok_iff circuit output).mpr ⟨free.1, free.2, rfl⟩
  obtain ⟨grownConsistent, -⟩ := consistent.of_register accepted
  unfold Compiler.settle Compiler.register
  simp only [free.1, accepted]
  exact congrArg (fun ledger => Except.ok { compiler with ledger := ledger }) grownConsistent.listed

theorem Compiler.agrees_or_free_of_settle {later : Compiler κ target}
    (settled : compiler.settle circuit output = .ok later) :
    compiler.ledger.Agrees circuit output ∨ compiler.ledger.Free circuit output := by
  cases found : compiler.ledger.valueOf? circuit with
  | some known =>
      cases same : known == output with
      | true => exact Or.inl ⟨known, found, same⟩
      | false =>
          rw [Compiler.settle_of_different found same] at settled
          cases settled
  | none =>
      cases held : compiler.ledger.keyOf? output with
      | none => exact Or.inr ⟨found, held⟩
      | some holder =>
          rw [Compiler.settle_of_held found held] at settled
          cases settled

end Settle

section Outcome

variable {target : Target}

/-- How a compilation in a session answers, and what ledger it leaves: its pipeline has returned the
result in the ended session, and the later session is the one after the answer. -/
structure Session.Outcome (circuit : Circuit κ) (session ended later : Session κ target)
    (result answer : Except (Failure κ target) target.Output) : Prop where
  accepted : ∀ output, answer = .ok output ↔
    result = .ok output ∧
      (ended.compiler.ledger.Agrees circuit output ∨ ended.compiler.ledger.Free circuit output)
  agreed : ∀ output, result = .ok output → ended.compiler.ledger.Agrees circuit output →
    later.compiler.ledger = ended.compiler.ledger
  added : ∀ output, result = .ok output → ended.compiler.ledger.Free circuit output →
    later.compiler.ledger = .ofPairs ((circuit, output) :: ended.compiler.ledger.forward)
  failed : ∀ error, result = .error error → answer = .error error
  conflicting : ∀ output known, result = .ok output →
    ended.compiler.ledger.valueOf? circuit = some known → (known == output) = false →
      Failure.Refuses answer .circuit (.conflictingResult circuit.id known output)
  held : ∀ output holder, result = .ok output →
    ended.compiler.ledger.valueOf? circuit = none →
      ended.compiler.ledger.keyOf? output = some holder →
        Failure.Refuses answer .output (.outputTaken output holder.id) ∧ holder.id ≠ circuit.id
  restored : ∀ error, answer = .error error → later.compiler.ledger = session.compiler.ledger

theorem Session.conclude_of_settled {ended : Session κ target} {checkpoint : Nat}
    {circuit : Circuit κ} {output : target.Output} {compiler : Compiler κ target}
    (settled : ended.compiler.settle circuit output = .ok compiler) :
    ended.conclude checkpoint circuit (.ok output) =
      (.ok output, Session.succeed { ended with compiler := compiler }) := by
  unfold Session.conclude
  simp only [settled]

theorem Session.conclude_of_refused {ended : Session κ target} {checkpoint : Nat}
    {circuit : Circuit κ} {output : target.Output} {error : Failure κ target}
    (refused : ended.compiler.settle circuit output = .error error) :
    ended.conclude checkpoint circuit (.ok output) =
      (.error error, ended.abort checkpoint error) := by
  unfold Session.conclude
  simp only [refused]

/-- A circuit without an output holds none. -/
theorem Ledger.Consistent.holder_ne {γ : Type} [BEq γ] [EquivBEq γ]
    {ledger : Ledger (Circuit κ) γ} (consistent : ledger.Consistent)
    {circuit holder : Circuit κ} {output : γ} (missing : ledger.valueOf? circuit = none)
    (held : ledger.keyOf? output = some holder) : holder.id ≠ circuit.id := by
  intro same
  obtain ⟨pair, member, -, rfl⟩ := (consistent.keyOf?_eq_some_iff output holder).mp held
  have apart := (Ledger.valueOf?_eq_none_iff circuit).mp missing pair member
  rw [(Circuit.beq_iff circuit pair.1).mpr same.symm] at apart
  contradiction

end Outcome

section Backend

variable {backend : Backend κ} {session ended : Session κ backend.target}

theorem Session.outcome_conclude (circuit : Circuit κ)
    (consistent : session.compiler.ledger.Consistent) (grows : session.LedgerGrows ended)
    (result : Except (Failure κ backend.target) backend.target.Output) :
    Session.Outcome circuit session ended
      (ended.conclude session.compiler.ledger.checkpoint circuit result).2 result
      (ended.conclude session.compiler.ledger.checkpoint circuit result).1 := by
  have endedConsistent := (grows consistent).1
  refine
    { accepted := ?_, agreed := ?_, added := ?_, failed := ?_, conflicting := ?_, held := ?_
      restored := ?_ }
  · intro output
    constructor
    · intro answered
      obtain ⟨cause, aborted⟩ | ⟨returned, compiler, rfl, settled, succeeded⟩ :=
        ended.conclude_cases session.compiler.ledger.checkpoint circuit result
      · rw [aborted] at answered
        cases answered
      · rw [succeeded] at answered
        cases answered
        exact ⟨rfl, Compiler.agrees_or_free_of_settle settled⟩
    · rintro ⟨rfl, agrees | free⟩
      · rw [Session.conclude_of_settled (Compiler.settle_of_agrees agrees)]
      · rw [Session.conclude_of_settled (Compiler.settle_of_free endedConsistent free)]
  · rintro output rfl agrees
    rw [Session.conclude_of_settled (Compiler.settle_of_agrees agrees)]
    rfl
  · rintro output rfl free
    rw [Session.conclude_of_settled (Compiler.settle_of_free endedConsistent free)]
    rfl
  · rintro error rfl
    rfl
  · rintro output known rfl found different
    have refused := Compiler.settle_of_different found different
    rw [Session.conclude_of_refused refused]
    exact ⟨rfl, rfl⟩
  · rintro output holder rfl missing held
    have refused := Compiler.settle_of_held missing held
    rw [Session.conclude_of_refused refused]
    exact ⟨⟨rfl, rfl⟩, endedConsistent.holder_ne missing held⟩
  · intro error failed
    exact Session.ledger_of_failed_conclude consistent grows (Prod.ext failed rfl)

end Backend

variable {backend : Backend κ}

/-- The outcome of a compilation.  At any moment of any run of a compiler, a compilation of a
circuit without an output ends when its pipeline does.  It gives the result of the pipeline, when
the ledger that the pipeline leaves has the circuit with an equal output, or has neither of the two,
and then at most that pair is added.  It fails with the error of the pipeline, or else because the
circuit is taken by a different output, or the output by another circuit.  If the pipeline has
compiled and registered nothing, then exactly one pair is added to the ledger before it. -/
theorem compile_outcome {first call : Moment backend} (depth : Nat) (circuit : Circuit κ)
    {result : Except (Failure κ backend.target) backend.target.Output}
    {ended : Session κ backend.target}
    (reachable : first.session.compiler.Reachable backend) (reached : first.Reaches call)
    (missing : call.session.compiler.ledger.valueOf? circuit = none)
    (ran : (backend.pipeline circuit).runWith (.within backend depth)
      (call.session.openRun backend circuit) = some (result, ended)) :
    ∃ answer later,
      (Calls.within backend (depth + 1)).compile circuit call.session = some (answer, later) ∧
        Session.Outcome circuit call.session ended later result answer ∧
        ((∀ moment : Moment backend,
            Moment.Reaches
                ⟨depth, backend.pipeline circuit, call.session.openRun backend circuit⟩ moment →
              moment.provides? = none) →
          ∀ output, answer = .ok output →
            later.compiler.ledger =
              .ofPairs ((circuit, output) :: call.session.compiler.ledger.forward)) := by
  have grown := reached.related Session.ledgerGrows_kept Session.ledgerGrows_concludes
  have consistent := (grown reachable.consistent).1
  have grows := Session.ledgerGrows_of_pipeline ran
  have outcome := Session.outcome_conclude circuit consistent grows result
  refine ⟨_, _, ?_, outcome, ?_⟩
  · exact Calls.compileWith_of_ran (.within backend depth) missing ran
  · intro nothing output answered
    have opened : (call.session.openRun backend circuit).compiler.ledger.Consistent := consistent
    have kept := Moment.ledger_of_runWith opened ran nothing
    have unchanged : ended.compiler.ledger = call.session.compiler.ledger := kept
    obtain ⟨returned, agrees | free⟩ := (outcome.accepted output).mp answered
    · obtain ⟨known, found, -⟩ := agrees
      rw [unchanged, missing] at found
      cases found
    · rw [outcome.added output returned free, unchanged]

namespace Switching

/-- A compiler with one rule, whose backend has switches. -/
def session (switches : Recording.Switches Kind) : Session Kind (Recording.target Kind) :=
  ⟨{ Nesting.compiler with state := ({ switches := switches } : Recording.State Kind) },
    #[], {}, []⟩

def moment (switches : Recording.Switches Kind) : Moment (Recording.backend : Backend Kind) :=
  ⟨2, Script.compile Nesting.inner, session switches⟩

theorem reachable (switches : Recording.Switches Kind) :
    (moment switches).session.compiler.Reachable Recording.backend :=
  ⟨(session switches).compiler, rfl, .refl⟩

def tape (number : Nat) : Recording.Tape :=
  ⟨0, number, ["product"]⟩

end Switching

/-- The pipeline registers another circuit and its own result; it registers a decoy; and it
registers another circuit with the result that it returns. -/
theorem compile_outcome_switching :
    (∃ later,
      (Calls.within Recording.backend 2).compile Nesting.inner
          (Switching.session { selfRegister := true, sideCircuit := some Nesting.outer }) =
        some (.ok (Switching.tape 1), later) ∧
      later.compiler.ledger =
        .ofPairs [(Nesting.inner, Switching.tape 1), (Nesting.outer, ⟨0, 2, []⟩)]) ∧
    (∃ answer later,
      (Calls.within Recording.backend 2).compile Nesting.inner
          (Switching.session { registerDecoy := true }) = some (answer, later) ∧
      Failure.Refuses answer .circuit
        (.conflictingResult Nesting.inner.id ⟨0, 1, []⟩ (Switching.tape 2)) ∧
      later.compiler.ledger = .empty) ∧
    ∃ answer later,
      (Calls.within Recording.backend 2).compile Nesting.inner
          (Switching.session { sideCircuit := some Nesting.outer, sideSharesResult := true }) =
        some (answer, later) ∧
      Failure.Refuses answer .output (.outputTaken (Switching.tape 1) Nesting.outer.id) ∧
      later.compiler.ledger = .empty := by
  refine ⟨?_, ?_, ?_⟩
  · obtain ⟨answer, later, compiled, outcome, -⟩ :=
      compile_outcome 1 Nesting.inner
        (Switching.reachable { selfRegister := true, sideCircuit := some Nesting.outer })
        .refl rfl rfl
    have agrees : Ledger.Agrees (.ofPairs [(Nesting.inner, Switching.tape 1),
        (Nesting.outer, ⟨0, 2, []⟩)]) Nesting.inner (Switching.tape 1) := ⟨_, rfl, rfl⟩
    have answered := (outcome.accepted (Switching.tape 1)).mpr ⟨rfl, Or.inl agrees⟩
    exact ⟨later, answered ▸ compiled, outcome.agreed (Switching.tape 1) rfl agrees⟩
  · obtain ⟨answer, later, compiled, outcome, -⟩ :=
      compile_outcome 1 Nesting.inner
        (Switching.reachable { registerDecoy := true }) .refl rfl rfl
    have refuses := outcome.conflicting (Switching.tape 2) ⟨0, 1, []⟩ rfl rfl rfl
    exact ⟨answer, later, compiled, refuses, outcome.restored _ refuses.1⟩
  · obtain ⟨answer, later, compiled, outcome, -⟩ :=
      compile_outcome 1 Nesting.inner
        (Switching.reachable { sideCircuit := some Nesting.outer, sideSharesResult := true })
        .refl rfl rfl
    have refuses := (outcome.held (Switching.tape 1) Nesting.outer rfl rfl rfl).1
    exact ⟨answer, later, compiled, refuses, outcome.restored _ refuses.1⟩

end Circuitry
