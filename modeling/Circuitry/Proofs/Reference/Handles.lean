import Circuitry.Catalogue.Kind
import Circuitry.Proofs.Reference.Progress

/-!
# Handles are not reused

A new reference compiler that runs any script gives out handles with the numbers one, two, three and
so on.  A number is taken only once: neither a rollback nor a registration of an old handle brings
it back.
-/

namespace Circuitry.Reference

variable {κ : Type} [Vocabulary κ] {α : Type}

/-- A new compiler has run a script to its end.  The script and the rules have left the numbering of
the handles alone, and have registered no handle before it was returned. -/
structure Runs (depth : Nat) (script : Script κ target α) (session : Session κ target)
    (outcome : Except (Failure κ target) α) (ended : Session κ target) : Prop where
  empty : session.compiler.ledger = .empty
  unnumbered : session.compiler.state.lastNumber = 0
  rules : session.compiler.rules.Respects State.Steady
  restrained : script.Respects State.Steady
  performed : session.perform backend depth script = some (outcome, ended)
  orderly : Deed.Orderly [] (deedsOf depth script session)

section Runs

variable {depth : Nat} {script : Script κ target α} {session ended : Session κ target}
  {outcome : Except (Failure κ target) α}

theorem Runs.progress (runs : Runs depth script session outcome ended) :
    Progress [] session.compiler ended.compiler (deedsOf depth script session) :=
  (callsProgress depth).runWith script runs.performed runs.restrained []
    (.of_empty runs.empty runs.rules) runs.orderly

/-- Handles are not reused.  While a new compiler runs a script and no more numbers are taken than
fit into a word, the completed pipelines make handles with the numbers one, two, three and so on, in
the order in which they are completed.  After every deed the numbers in the ledger are among those
taken.  No new handle is found in the ledger: a compilation fails because a side of the ledger is
taken only when it hands on such an error of a rule, or when its circuit has been compiled or
registered during the run of its pipeline. -/
theorem handles_fresh (runs : Runs depth script session outcome ended)
    (few : (Deed.made (deedsOf depth script session)).length < 2 ^ 64) :
    (Deed.made (deedsOf depth script session)).map (·.number) =
        List.range' 1 (Deed.made (deedsOf depth script session)).length ∧
      (∀ deed ∈ deedsOf depth script session,
        Bounded deed.after.compiler ∧ deed.after.compiler.state.lastNumber < 2 ^ 64) ∧
      ∀ call, .compilation call ∈ deedsOf depth script session → Explained call := by
  have progress := runs.progress
  have last := progress.lastNumber
  rw [runs.unnumbered, Nat.zero_add] at last
  refine ⟨?_, ?_, progress.explained⟩
  · rw [progress.made, runs.unnumbered]
  · intro deed member
    obtain ⟨bounded, atMost⟩ := progress.bounded deed member
    exact ⟨bounded, Nat.lt_of_le_of_lt (last ▸ atMost) few⟩

end Runs

namespace Reissue

/-- A circuit of one layer. -/
def circuit (number : Nat) (kind : Kind) (payload : kind.Payload) : Circuit Kind :=
  ⟨⟨number⟩, none, #[⟨⟨kind, payload⟩, [], []⟩], [0]⟩

def plain : Circuit Kind := circuit 1 .alpha ()
def other : Circuit Kind := circuit 2 .alpha ()
def nesting : Circuit Kind := circuit 3 .beta ()
def greedy : Circuit Kind := circuit 4 .gamma ()

def handle (number : Nat) : Handle :=
  ⟨0, number, ⟨none, .lseSum, [⟨.hadamard 0 0, [], .empty⟩], [0]⟩⟩

/-- The rule compiles a circuit and then fails. -/
def compileThenFail : Script Kind target LayerOp :=
  .compiling plain fun _ => .done (.error (.pipeline "failed after compiling"))

/-- The rule registers the first handle for another circuit, and hands on a refusal. -/
def registerFirst : Script Kind target LayerOp :=
  .registering other (handle 1) fun
    | .ok _ => .done (.ok (.hadamard 0 0))
    | .error error => .done (.error error)

def rules : Rulebook Kind target where
  layers :=
    ⟨.layer, .reject,
      [(.alpha, fun _ => .done (.ok (LayerOp.hadamard 0 0))), (.beta, fun _ => compileThenFail),
       (.gamma, fun _ => registerFirst)]⟩
  parameters := .empty .parameter .reject
  initializers := .empty .initializer .reject

def session : Session Kind target :=
  ⟨⟨({} : State), rules, .empty, .empty⟩, #[], {}, []⟩

theorem rules_respects : rules.Respects State.Steady := by
  refine Rulebook.respects_of_forall fun category => ?_
  cases category with
  | layer =>
      refine List.forall_mem_cons.mpr ⟨fun _ => trivial, ?_⟩
      refine List.forall_mem_cons.mpr ⟨fun _ _ => trivial, ?_⟩
      refine List.forall_mem_cons.mpr ⟨fun _ answer => ?_, List.forall_mem_nil _⟩
      cases answer <;> trivial
  | parameter => exact List.forall_mem_nil _
  | initializer => exact List.forall_mem_nil _

/-- The nested compilation is rolled back, its handle is registered for another circuit, and then
the circuit is compiled again. -/
def again : Script Kind target Unit :=
  .compiling nesting fun _ => .registering other (handle 1) fun _ => .compiling plain fun _ =>
    .done (.ok ())

/-- The rule of the second circuit registers the handle of the first one. -/
def refused : Script Kind target Unit :=
  .compiling plain fun _ => .compiling greedy fun _ => .done (.ok ())

/-- The registration is the twelfth deed; the first handle has been returned before. -/
theorem runs_again : ∃ ended, Runs 4 again session (.ok ()) ended ∧
    ended.compiler.ledger = .ofPairs [(plain, handle 2), (other, handle 1)] := by
  refine ⟨_, ⟨rfl, rfl, rules_respects, fun _ _ _ => trivial, rfl, ?_⟩, rfl⟩
  rw [← List.take_append_drop 11 (deedsOf 4 again session)]
  refine Deed.orderly_append.mpr ⟨Deed.orderly_of_unregistered rfl, ?_⟩
  refine And.intro (fun output same => ?_) (Deed.orderly_of_unregistered rfl)
  cases same
  exact List.mem_cons_self

theorem runs_refused : ∃ ended, Runs 4 refused session (.ok ()) ended := by
  refine ⟨_, ⟨rfl, rfl, rules_respects, fun _ _ => trivial, rfl, ?_⟩⟩
  rw [← List.take_append_drop 10 (deedsOf 4 refused session)]
  refine Deed.orderly_append.mpr ⟨Deed.orderly_of_unregistered rfl, ?_⟩
  refine And.intro (fun output same => ?_) (Deed.orderly_of_unregistered rfl)
  cases same
  exact List.mem_cons_self

end Reissue

/-- The number of a rolled back handle is not taken again, nor when the handle is registered for
another circuit. -/
theorem handles_fresh_again :
    ∃ ended, Runs 4 Reissue.again Reissue.session (.ok ()) ended ∧
      (Deed.made (deedsOf 4 Reissue.again Reissue.session)).length < 2 ^ 64 ∧
      (Deed.made (deedsOf 4 Reissue.again Reissue.session)).map (·.number) = [1, 2] ∧
      ended.compiler.ledger =
        .ofPairs [(Reissue.plain, Reissue.handle 2), (Reissue.other, Reissue.handle 1)] := by
  obtain ⟨ended, runs, ledger⟩ := Reissue.runs_again
  have few : (Deed.made (deedsOf 4 Reissue.again Reissue.session)).length < 2 ^ 64 := by
    change 2 < 2 ^ 64
    decide
  obtain ⟨numbers, -, -⟩ := handles_fresh runs few
  exact ⟨ended, runs, few, numbers, ledger⟩

/-- A rule may ask for the registration of an old handle, which is refused, and hand the refusal
on. -/
theorem not_handles_unrefused :
    ¬ ∀ {depth : Nat} {script : Script Kind target Unit} {session ended : Session Kind target}
      {outcome : Except (Failure Kind target) Unit}, Runs depth script session outcome ended →
        (Deed.made (deedsOf depth script session)).length < 2 ^ 64 →
          ∀ call, .compilation call ∈ deedsOf depth script session →
            ∀ error, call.answer = .error error → error.takenSide? ≠ some .output := by
  intro unrefused
  obtain ⟨ended, runs⟩ := Reissue.runs_refused
  have few : (Deed.made (deedsOf 4 Reissue.refused Reissue.session)).length < 2 ^ 64 := by
    change 1 < 2 ^ 64
    decide
  have last : ∃ call, (deedsOf 4 Reissue.refused Reissue.session).getLast? =
      some (.compilation call) ∧
        call.answer = .error (.outputTaken (Reissue.handle 1) Reissue.plain.id) := ⟨_, rfl, rfl⟩
  obtain ⟨call, isLast, answered⟩ := last
  exact unrefused runs few call (List.mem_of_getLast? isLast) _ answered rfl

end Circuitry.Reference
