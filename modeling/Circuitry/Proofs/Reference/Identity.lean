import Circuitry.Proofs.Reference.Handles

/-!
# What a handle identifies

Handles are compared by number, and the numbers of one compiler identify what it has given out:
equal handles are the same handle, and looking one up finds the circuit that this very handle stands
for.
Two compilers begin with the same numbers, so their handles are confused with each other.
-/

namespace Circuitry.Reference

variable {κ : Type} [Vocabulary κ] {α : Type}

section Runs

variable {known : List target.Output} {compiler : Compiler κ target}

theorem Numbering.eq_of_beq (numbering : Numbering known compiler) {left right : target.Output}
    (leftKnown : left ∈ known) (rightKnown : right ∈ known) (equal : (left == right) = true) :
    left = right :=
  numbering.unique left leftKnown right rightKnown ((Numbered.beq_iff left right).mp equal)

/-- Looking a known handle up finds exactly the pairs of this handle. -/
theorem Numbering.keyOf?_eq_some_iff (numbering : Numbering known compiler)
    {handle : target.Output} (handleKnown : handle ∈ known) (circuit : Circuit κ) :
    compiler.ledger.keyOf? handle = some circuit ↔ (circuit, handle) ∈ compiler.ledger.forward := by
  rw [numbering.consistent.keyOf?_eq_some_iff]
  constructor
  · rintro ⟨pair, member, equal, rfl⟩
    have same := numbering.eq_of_beq handleKnown (numbering.held pair member) equal
    rw [same]
    exact member
  · intro member
    exact ⟨(circuit, handle), member, BEq.rfl, rfl⟩

variable {depth : Nat} {script : Script κ target α} {session ended : Session κ target}
  {outcome : Except (Failure κ target) α}

/-- The handles of one compiler identify their programs.  Of the handles that a new compiler has
returned while it ran a script, two that are equal share one program.  The compiler knows such a
handle when this very handle is registered, and looking it up gives the circuit that it is
registered for.  The numbers of the handles are natural numbers, so they never run out. -/
theorem handles_identify (runs : Runs depth script session outcome ended) :
    (∀ left ∈ Deed.returned (deedsOf depth script session),
      ∀ right ∈ Deed.returned (deedsOf depth script session), (left == right) = true →
        Numbered.isSame left right = true ∧ left = right) ∧
      ∀ handle ∈ Deed.returned (deedsOf depth script session),
        (ended.compiler.ledger.hasValue handle = true ↔
          ∃ circuit, (circuit, handle) ∈ ended.compiler.ledger.forward) ∧
        ∀ circuit, ended.compiler.circuitOf handle = .ok circuit ↔
          (circuit, handle) ∈ ended.compiler.ledger.forward := by
  have numbering := runs.progress.numbering
  rw [List.nil_append] at numbering
  constructor
  · intro left leftReturned right rightReturned equal
    obtain rfl := numbering.eq_of_beq leftReturned rightReturned equal
    refine ⟨?_, rfl⟩
    unfold Numbered.isSame
    rw [beq_self_eq_true, beq_self_eq_true, Bool.and_true]
  · intro handle returned
    have found := numbering.keyOf?_eq_some_iff returned
    constructor
    · unfold Ledger.hasValue
      rw [Option.isSome_iff_exists]
      exact exists_congr found
    · intro circuit
      rw [← found circuit]
      unfold Compiler.circuitOf
      cases ended.compiler.ledger.keyOf? handle <;> simp

end Runs

/-- The handle that was rolled back is found for the circuit that it was registered for then. -/
theorem handles_identify_again :
    ∃ ended, Runs 4 Reissue.again Reissue.session (.ok ()) ended ∧
      ended.compiler.circuitOf (Reissue.handle 1) = .ok Reissue.other ∧
      ended.compiler.circuitOf (Reissue.handle 2) = .ok Reissue.plain := by
  obtain ⟨ended, runs, ledger⟩ := Reissue.runs_again
  have returned : Deed.returned (deedsOf 4 Reissue.again Reissue.session) =
      [Reissue.handle 1, Reissue.handle 2] := rfl
  obtain ⟨-, found⟩ := handles_identify runs
  rw [returned, ledger] at found
  refine ⟨ended, runs, ?_, ?_⟩
  · exact ((found _ List.mem_cons_self).2 _).mpr (List.mem_cons_of_mem _ List.mem_cons_self)
  · exact ((found _ (List.mem_cons_of_mem _ List.mem_cons_self)).2 _).mpr List.mem_cons_self

namespace Reissue

/-- Another new compiler with the same rules. -/
def second : Session Kind target :=
  { session with compiler := { session.compiler with state := ({ origin := 1 } : State) } }

def named : Circuit Kind := { circuit 5 .alpha () with name := some "named" }

def namedHandle : Handle :=
  ⟨1, 1, { (handle 1).content with name := some "named" }⟩

theorem runs_second : ∃ ended,
    Runs 4 (Script.compile named : Script Kind target Handle) second (.ok namedHandle) ended :=
  ⟨_, ⟨rfl, rfl, rules_respects, fun _ => trivial, rfl, Deed.orderly_of_unregistered rfl⟩⟩

end Reissue

/-- The first handles of two compilers are equal, whatever their programs are. -/
theorem not_handles_identify :
    ¬ ∀ {α β : Type} {depth otherDepth : Nat} {script : Script Kind target α}
      {otherScript : Script Kind target β} {session ended otherSession otherEnded :
        Session Kind target} {outcome : Except (Failure Kind target) α}
      {otherOutcome : Except (Failure Kind target) β},
      Runs depth script session outcome ended →
        Runs otherDepth otherScript otherSession otherOutcome otherEnded →
          ∀ left ∈ Deed.returned (deedsOf depth script session),
            (∀ right ∈ Deed.returned (deedsOf otherDepth otherScript otherSession),
              (left == right) = true → Numbered.isSame left right = true) ∧
            ((∀ circuit, (circuit, left) ∉ otherEnded.compiler.ledger.forward) →
              otherEnded.compiler.ledger.hasValue left = false) := by
  intro identify
  obtain ⟨ended, runs, -⟩ := Reissue.runs_again
  obtain ⟨otherEnded, otherRuns⟩ := Reissue.runs_second
  have same := (identify runs otherRuns (Reissue.handle 1) List.mem_cons_self).1
    Reissue.namedHandle List.mem_cons_self rfl
  contradiction

end Circuitry.Reference
