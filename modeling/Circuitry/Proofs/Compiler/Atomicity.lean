import Circuitry.Catalogue.Kind
import Circuitry.Proofs.Compiler.Moments
import Circuitry.Proofs.Ledger.Pairs
import Circuitry.Recording

/-!
# Atomic compilations

The ledger of a compiler only grows while scripts run: every request either leaves it or puts a pair
in front, and the rollback that ends a failed pipeline stops where that pipeline began.  So a failed
compilation restores the ledger part by part, whatever its pipeline and rules did, and no
compilation ever drops a pair that was there before it.
-/

namespace Circuitry

variable {κ : Type} [Vocabulary κ]

section Growth

variable {target : Target}

/-- The ledger has grown, if it was consistent. -/
def Session.LedgerGrows (session later : Session κ target) : Prop :=
  session.compiler.ledger.Grows later.compiler.ledger

theorem Compiler.grows_of_register
    {compiler later : Compiler κ target} {circuit : Circuit κ} {output : target.Output}
    (registered : compiler.register circuit output = .ok later) :
    compiler.ledger.Grows later.ledger := by
  obtain ⟨ledger, accepted, rfl⟩ := Compiler.eq_of_register registered
  exact Ledger.Grows.of_register accepted

theorem Compiler.grows_of_settle
    {compiler later : Compiler κ target} {circuit : Circuit κ} {output : target.Output}
    (settled : compiler.settle circuit output = .ok later) :
    compiler.ledger.Grows later.ledger := by
  obtain ⟨known, -, -, rfl⟩ | ⟨-, registered⟩ := Compiler.settle_cases settled
  · exact Ledger.Grows.refl _
  · exact Compiler.grows_of_register registered

theorem Session.ledgerGrows_kept :
    Session.Kept (Session.LedgerGrows : Session κ target → Session κ target → Prop) where
  refl session := Ledger.Grows.refl session.compiler.ledger
  trans := Ledger.Grows.trans
  register session circuit output := by
    unfold Session.LedgerGrows Session.register
    split
    · next compiler registered => exact Compiler.grows_of_register registered
    · exact Ledger.Grows.refl _
  addRule session category kind rule := by
    unfold Session.LedgerGrows Session.addRule
    split <;> exact Ledger.Grows.refl _
  update session _ := Ledger.Grows.refl session.compiler.ledger
  report session _ := Ledger.Grows.refl session.compiler.ledger
  countInvocation session _ _ := Ledger.Grows.refl session.compiler.ledger
  finishCircuit session builder outputs := by
    unfold Session.LedgerGrows Session.finishCircuit
    split <;> exact Ledger.Grows.refl _

theorem Session.ledger_of_abort (session : Session κ target) (checkpoint : Nat)
    (error : Failure κ target) :
    (session.abort checkpoint error).compiler.ledger =
      (session.compiler.ledger.rollback checkpoint).1 := rfl

/-- A pipeline ends with an error and a rollback, or with an output that has been settled. -/
theorem Session.conclude_cases (ended : Session κ target) (checkpoint : Nat)
    (circuit : Circuit κ) (result : Except (Failure κ target) target.Output) :
    (∃ error, ended.conclude checkpoint circuit result =
        (.error error, ended.abort checkpoint error)) ∨
      ∃ output compiler, result = .ok output ∧
        ended.compiler.settle circuit output = .ok compiler ∧
        ended.conclude checkpoint circuit result =
          (.ok output, Session.succeed { ended with compiler := compiler }) := by
  unfold Session.conclude
  cases result with
  | error error => exact Or.inl ⟨error, rfl⟩
  | ok output =>
      cases settled : ended.compiler.settle circuit output with
      | error error => exact Or.inl ⟨error, by simp only [settled]⟩
      | ok compiler => exact Or.inr ⟨output, compiler, rfl, settled, by simp only [settled]⟩

end Growth

section Backend

variable {backend : Backend κ}

/-- After a failed pipeline the ledger is what it was when the pipeline began. -/
theorem Session.ledger_of_failed_conclude
    {session ended later : Session κ backend.target} {circuit : Circuit κ}
    {result : Except (Failure κ backend.target) backend.target.Output}
    {error : Failure κ backend.target}
    (consistent : session.compiler.ledger.Consistent)
    (grows : session.LedgerGrows ended)
    (failed : ended.conclude session.compiler.ledger.checkpoint circuit result =
      (.error error, later)) :
    later.compiler.ledger = session.compiler.ledger := by
  obtain ⟨cause, aborted⟩ | ⟨output, compiler, -, -, succeeded⟩ :=
    ended.conclude_cases session.compiler.ledger.checkpoint circuit result
  · rw [aborted] at failed
    cases failed
    rw [Session.ledger_of_abort, grows.rollback consistent]
  · rw [succeeded] at failed
    cases failed

/-- What a failed run has added is gone again, so its ledger has grown by nothing. -/
theorem Session.ledgerGrows_concludes :
    Session.Concludes backend (Session.LedgerGrows : Session κ backend.target → _ → Prop) := by
  intro session ended circuit result grows
  obtain ⟨cause, aborted⟩ | ⟨output, compiler, -, settled, succeeded⟩ :=
    ended.conclude_cases session.compiler.ledger.checkpoint circuit result
  · intro consistent
    have restored := Session.ledger_of_failed_conclude consistent grows aborted
    rw [aborted]
    dsimp only
    rw [restored]
    exact ⟨consistent, List.suffix_rfl⟩
  · rw [succeeded]
    exact grows.trans (Compiler.grows_of_settle settled)

theorem Session.ledgerGrows_of_runWith {depth : Nat} {script : Script κ backend.target α}
    {session ended : Session κ backend.target} {outcome : Except (Failure κ backend.target) α}
    (ran : script.runWith (.within backend depth) session = some (outcome, ended)) :
    session.LedgerGrows ended :=
  ledgerGrows_kept.perform ledgerGrows_concludes ran

theorem Session.ledgerGrows_of_pipeline {depth : Nat} {circuit : Circuit κ}
    {session ended : Session κ backend.target}
    {result : Except (Failure κ backend.target) backend.target.Output}
    (ran : (backend.pipeline circuit).runWith (.within backend depth)
      (session.openRun backend circuit) = some (result, ended)) : session.LedgerGrows ended :=
  have grows : (session.openRun backend circuit).LedgerGrows ended := ledgerGrows_of_runWith ran
  grows

end Backend

namespace Compiler

variable {backend : Backend κ}

/-- A compiler becomes another one by running a script to its end, in any session. -/
def Performs (backend : Backend κ) (compiler later : Compiler κ backend.target) : Prop :=
  ∃ (first : Moment backend) (outcome : Except (Failure κ backend.target) first.Result)
    (ended : Session κ backend.target),
    first.session.compiler = compiler ∧
      first.session.perform backend first.depth first.script = some (outcome, ended) ∧
      ended.compiler = later

/-- A compiler begins with an empty ledger and runs scripts one after the other. -/
def Reachable (backend : Backend κ) (compiler : Compiler κ backend.target) : Prop :=
  ∃ start : Compiler κ backend.target,
    start.ledger = .empty ∧ Relation.ReflTransGen (Performs backend) start compiler

theorem Performs.grows {compiler later : Compiler κ backend.target}
    (performs : Performs backend compiler later) : compiler.ledger.Grows later.ledger := by
  obtain ⟨first, outcome, ended, rfl, performed, rfl⟩ := performs
  exact Session.ledgerGrows_of_runWith performed

theorem grows_of_performs {compiler later : Compiler κ backend.target}
    (performed : Relation.ReflTransGen (Performs backend) compiler later) :
    compiler.ledger.Grows later.ledger := by
  induction performed with
  | refl => exact Ledger.Grows.refl _
  | tail _ performs inductionHypothesis => exact inductionHypothesis.trans performs.grows

theorem Reachable.consistent {compiler : Compiler κ backend.target}
    (reachable : Reachable backend compiler) : compiler.ledger.Consistent := by
  obtain ⟨start, empty, performed⟩ := reachable
  have beginning : start.ledger.Consistent := empty ▸ Ledger.consistent_empty
  exact (grows_of_performs performed beginning).1

end Compiler

namespace Nesting

/-- The circuit that the rule for leaves compiles. -/
def inner : Circuit Kind :=
  ⟨⟨1⟩, none, #[⟨⟨.plainProduct, ()⟩, [], []⟩], [0]⟩

def outer : Circuit Kind :=
  ⟨⟨2⟩, none, #[⟨⟨.leaf, ()⟩, [], []⟩, ⟨⟨.plainProduct, ()⟩, [0], []⟩], [1]⟩

def compileInner : Script Kind (Recording.target Kind) String := do
  let _ ← (Script.compile inner : Script Kind (Recording.target Kind) Recording.Tape)
  return "leaf"

def rules : Rulebook Kind (Recording.target Kind) where
  layers :=
    ⟨.layer, .reject,
      [(.leaf, fun _ => compileInner), (.plainProduct, fun _ => .done (.ok "product"))]⟩
  parameters := .empty .parameter .reject
  initializers := .empty .initializer .reject

/-- The backend fails after the second layer. -/
def compiler : Compiler Kind (Recording.target Kind) where
  state := ({ switches := { failAfterLayers := some 2 } } : Recording.State Kind)
  rules := rules
  flags := .empty
  ledger := .empty

def session : Session Kind (Recording.target Kind) :=
  ⟨compiler, #[], {}, []⟩

/-- The moment at which the outer circuit is about to be compiled. -/
def start : Moment (Recording.backend : Backend Kind) :=
  ⟨4, Script.compile outer, session⟩

theorem reachable : start.session.compiler.Reachable Recording.backend :=
  ⟨compiler, rfl, .refl⟩

end Nesting

variable {backend : Backend κ}

theorem Calls.ledger_of_failed_compile {depth : Nat} {circuit : Circuit κ}
    {session ended : Session κ backend.target} {error : Failure κ backend.target}
    (consistent : session.compiler.ledger.Consistent)
    (failed : (Calls.within backend depth).compile circuit session = some (.error error, ended)) :
    ended.compiler.ledger = session.compiler.ledger := by
  cases depth with
  | zero => cases failed
  | succ depth =>
      change Calls.compileWith backend _ circuit session = _ at failed
      cases found : session.compiler.ledger.valueOf? circuit with
      | some output =>
          rw [Calls.compileWith_of_found _ found] at failed
          cases failed
      | none =>
          obtain ⟨result, last, run, concluded⟩ := Calls.compileWith_of_missing _ found failed
          have grows := Session.ledgerGrows_of_pipeline run
          exact Session.ledger_of_failed_conclude consistent grows concluded

/-- Compilation is atomic.  At any moment of any run of a compiler, be it before the first request
or deep inside nested pipelines and rules, a compilation that fails restores both directions and
the journal of the ledger; and from its start on, through every later moment of the compilation,
the ledger keeps each pair that it held. -/
theorem compile_atomic {first call : Moment backend}
    (reachable : first.session.compiler.Reachable backend)
    (reached : first.Reaches call) (circuit : Circuit κ) :
    (∀ error ended,
      (Calls.within backend call.depth).compile circuit call.session =
          some (.error error, ended) →
        ended.compiler.ledger = call.session.compiler.ledger) ∧
      ∀ later : Moment backend,
        Moment.Reaches ⟨call.depth, Script.compile circuit, call.session⟩ later →
          call.session.compiler.ledger.Keeps later.session.compiler.ledger := by
  have grown := reached.related Session.ledgerGrows_kept Session.ledgerGrows_concludes
  have consistent := (grown reachable.consistent).1
  constructor
  · intro error ended failed
    exact Calls.ledger_of_failed_compile consistent failed
  · intro later during
    have grows := during.related Session.ledgerGrows_kept Session.ledgerGrows_concludes
    exact Ledger.Grows.keeps grows consistent

/-- The nested compilation succeeds and is counted, and its pair is gone when the outer one has
failed. -/
theorem compile_atomic_nesting :
    Nesting.start.session.compiler.Reachable Recording.backend ∧
      Nesting.start.Reaches Nesting.start ∧
      ∃ ended,
        (Calls.within Recording.backend 4).compile Nesting.outer Nesting.session =
            some (.error (.pipeline "injected failure"), ended) ∧
          .compiled 1 ∈ ended.events.toList ∧ .rolledBack 1 ∈ ended.events.toList ∧
          ended.compiler.ledger = Nesting.session.compiler.ledger := by
  have atomic := compile_atomic Nesting.reachable .refl Nesting.outer
  exact ⟨Nesting.reachable, .refl, _, rfl, by decide, by decide, atomic.1 _ _ rfl⟩

end Circuitry
