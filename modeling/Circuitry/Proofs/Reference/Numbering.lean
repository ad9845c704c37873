import Circuitry.Proofs.Compiler.Chronicle
import Circuitry.Proofs.Reference.Assembling

/-!
# The numbers of handles

A reference compiler numbers the handles that it gives out.  As long as only such handles are
registered, every number in the ledger has been taken before, and a new handle cannot be mistaken
for one of them.
-/

namespace Circuitry.Reference

variable {κ : Type} [Vocabulary κ] {α : Type}

/-- The known handles have numbers of the compiler, and no two of them the same; only such handles
are registered. -/
structure Numbering (known : List target.Output) (compiler : Compiler κ target) : Prop where
  consistent : compiler.ledger.Consistent
  held : ∀ pair ∈ compiler.ledger.forward, pair.2 ∈ known
  counted : ∀ handle ∈ known, handle.origin = compiler.state.origin ∧
    1 ≤ handle.number ∧ handle.number ≤ compiler.state.lastNumber
  unique : ∀ left ∈ known, ∀ right ∈ known, left.number = right.number → left = right
  restrained : compiler.rules.Respects State.Steady

/-- The numbers in the ledger have been taken. -/
def Bounded (compiler : Compiler κ target) : Prop :=
  ∀ pair ∈ compiler.ledger.forward,
    1 ≤ pair.2.number ∧ pair.2.number ≤ compiler.state.lastNumber

namespace Numbering

variable {known : List target.Output} {compiler later : Compiler κ target}

theorem bounded (numbering : Numbering known compiler) : Bounded compiler := fun pair member =>
  (numbering.counted pair.2 (numbering.held pair member)).2

theorem of_empty (empty : compiler.ledger = .empty)
    (restrained : compiler.rules.Respects State.Steady) : Numbering [] compiler where
  consistent := empty ▸ Ledger.consistent_empty
  held pair member := by
    rw [empty] at member
    cases member
  counted handle member := by cases member
  unique left member := by cases member
  restrained := restrained

/-- The rules and the state may change as long as the numbering does not. -/
theorem of_sameLedger (numbering : Numbering known compiler)
    (ledger : later.ledger = compiler.ledger)
    (lastNumber : later.state.lastNumber = compiler.state.lastNumber)
    (origin : later.state.origin = compiler.state.origin)
    (restrained : later.rules.Respects State.Steady) : Numbering known later where
  consistent := ledger ▸ numbering.consistent
  held := ledger ▸ numbering.held
  counted handle member := by
    rw [lastNumber, origin]
    exact numbering.counted handle member
  unique := numbering.unique
  restrained := restrained

theorem register {circuit : Circuit κ} {handle : target.Output}
    (numbering : Numbering known compiler) (member : handle ∈ known)
    (registered : compiler.register circuit handle = .ok later) :
    Numbering known later := by
  unfold Compiler.register at registered
  split at registered
  · next ledger accepted =>
      cases registered
      obtain ⟨consistent, forward⟩ := numbering.consistent.of_register accepted
      refine
        { consistent := consistent
          held := ?_
          counted := numbering.counted
          unique := numbering.unique
          restrained := numbering.restrained }
      intro pair inForward
      rw [forward] at inForward
      rcases List.mem_cons.mp inForward with rfl | older
      · exact member
      · exact numbering.held pair older
  · contradiction

theorem restore {earlier : List target.Output} (numbering : Numbering known later)
    (before : Numbering earlier compiler) (older : earlier ⊆ known) :
    Numbering known { later with ledger := compiler.ledger } where
  consistent := before.consistent
  held pair member := older (before.held pair member)
  counted := numbering.counted
  unique := numbering.unique
  restrained := numbering.restrained

/-- After a failed pipeline the ledger goes back, and the numbers stay taken. -/
theorem abort {earlier : List target.Output} {session ended : Session κ target}
    (numbering : Numbering known ended.compiler) (before : Numbering earlier session.compiler)
    (older : earlier ⊆ known) (grows : session.LedgerGrows ended) (error : Failure κ target) :
    Numbering known (ended.abort session.compiler.ledger.checkpoint error).compiler := by
  have ledger : (ended.compiler.ledger.rollback session.compiler.ledger.checkpoint).1 =
      session.compiler.ledger := by
    rw [grows.rollback before.consistent]
  have restored := numbering.restore before older
  rw [← ledger] at restored
  exact restored

theorem appendNil (numbering : Numbering known compiler) : Numbering (known ++ []) compiler := by
  rw [List.append_nil]
  exact numbering

/-- A known handle may be given out again. -/
theorem repeated {handle : target.Output} (numbering : Numbering known compiler)
    (member : handle ∈ known) : Numbering (known ++ [handle]) compiler := by
  have same : ∀ other, other ∈ known ++ [handle] → other ∈ known := by
    intro other inBoth
    rcases List.mem_append.mp inBoth with inKnown | isHandle
    · exact inKnown
    · exact List.mem_singleton.mp isHandle ▸ member
  exact
    { consistent := numbering.consistent
      held := fun pair inForward => List.mem_append_left _ (numbering.held pair inForward)
      counted := fun other inBoth => numbering.counted other (same other inBoth)
      unique := fun left leftMember right rightMember =>
        numbering.unique left (same left leftMember) right (same right rightMember)
      restrained := numbering.restrained }

/-- A restrained request leaves the numbering alone, if it registers a known handle or none. -/
theorem afterRequest? {script rest : Script κ target α} {session ended : Session κ target}
    (numbering : Numbering known session.compiler) (respects : script.Respects State.Steady)
    (requested : script.afterRequest? session = some (rest, ended))
    (orderly : ∀ output, (script.firstDeed ended).registered? = some output → output ∈ known) :
    Numbering known ended.compiler ∧
      ended.compiler.state.lastNumber = session.compiler.state.lastNumber := by
  have rules := (respects.afterRequest? numbering.restrained requested).2
  cases script <;> simp only [Script.afterRequest?, Option.some.injEq, Prod.mk.injEq,
    reduceCtorEq] at requested <;> obtain ⟨-, rfl⟩ := requested
  case registering circuit output next =>
    refine ⟨?_, by rw [session.compiler_register circuit output]⟩
    unfold Session.register
    split
    · next compiler registered => exact numbering.register (orderly output rfl) registered
    · exact numbering
  case addingRule category kind body next =>
    unfold Session.addRule at rules ⊢
    split at rules
    · exact ⟨numbering.of_sameLedger rfl rfl rfl rules, rfl⟩
    · exact ⟨numbering, rfl⟩
  case updating change next =>
    obtain ⟨lastNumber, origin⟩ := respects.1 session.compiler.state
    exact ⟨numbering.of_sameLedger rfl lastNumber origin rules, lastNumber⟩
  case finishing builder outputs next =>
    rw [session.compiler_finishCircuit builder outputs]
    exact ⟨numbering, rfl⟩
  all_goals exact ⟨numbering, rfl⟩

variable (program : Program)

theorem beq_next (numbering : Numbering known compiler) {handle : target.Output}
    (member : handle ∈ known) : (handle == nextHandle compiler program) = false := by
  obtain ⟨-, -, atMost⟩ := numbering.counted handle member
  refine Bool.eq_false_iff.mpr fun same => ?_
  have equal : handle.number = compiler.state.lastNumber + 1 :=
    (Numbered.beq_iff handle (nextHandle compiler program)).mp same
  omega

/-- A new handle is registered for no circuit. -/
theorem keyOf?_next (numbering : Numbering known compiler) :
    compiler.ledger.keyOf? (nextHandle compiler program) = none := by
  refine (numbering.consistent.keyOf?_eq_none_iff _).mpr fun pair member => ?_
  refine Bool.eq_false_iff.mpr fun same => ?_
  have different := numbering.beq_next program (numbering.held pair member)
  exact Bool.eq_false_iff.mp different (PartialEquivBEq.symm same)

theorem mem_of_valueOf? (numbering : Numbering known compiler) {circuit : Circuit κ}
    {handle : target.Output} (found : compiler.ledger.valueOf? circuit = some handle) :
    handle ∈ known := by
  obtain ⟨pair, member, -, rfl⟩ :=
    (numbering.consistent.valueOf?_eq_some_iff circuit handle).mp found
  exact numbering.held pair member

theorem skip (numbering : Numbering known compiler) :
    Numbering known { compiler with state := compiler.state.takeNumber } where
  consistent := numbering.consistent
  held := numbering.held
  counted handle member := by
    obtain ⟨origin, positive, atMost⟩ := numbering.counted handle member
    exact ⟨origin, positive, Nat.le_succ_of_le atMost⟩
  unique := numbering.unique
  restrained := numbering.restrained

/-- A circuit without a handle may get the new one. -/
theorem insert (numbering : Numbering known compiler) {circuit : Circuit κ}
    (missing : compiler.ledger.valueOf? circuit = none) :
    Numbering (known ++ [nextHandle compiler program])
      { compiler with
        state := compiler.state.takeNumber
        ledger :=
          .ofPairs ((circuit, nextHandle compiler program) :: compiler.ledger.forward) } where
  consistent := by
    have accepted := (Ledger.register_eq_ok_iff circuit (nextHandle compiler program)).mpr
      ⟨missing, numbering.keyOf?_next program, rfl⟩
    obtain ⟨grownConsistent, -⟩ := numbering.consistent.of_register accepted
    have listed := grownConsistent.listed
    exact listed ▸ grownConsistent
  held pair member := by
    rcases List.mem_cons.mp member with rfl | older
    · exact List.mem_append_right known List.mem_cons_self
    · exact List.mem_append_left _ (numbering.held pair older)
  counted handle member := by
    rcases List.mem_append.mp member with older | new
    · exact (numbering.skip).counted handle older
    · rw [List.mem_singleton.mp new]
      exact ⟨rfl, Nat.succ_pos _, Nat.le_refl _⟩
  unique left leftMember right rightMember same := by
    have below : ∀ handle ∈ known, handle.number ≠ (nextHandle compiler program).number :=
      fun handle member equal =>
        Bool.eq_false_iff.mp (numbering.beq_next program member)
          ((Numbered.beq_iff handle (nextHandle compiler program)).mpr equal)
    rcases List.mem_append.mp leftMember with leftOlder | leftNew <;>
      rcases List.mem_append.mp rightMember with rightOlder | rightNew
    · exact numbering.unique left leftOlder right rightOlder same
    · rw [List.mem_singleton.mp rightNew] at same
      exact absurd same (below left leftOlder)
    · rw [List.mem_singleton.mp leftNew] at same
      exact absurd same.symm (below right rightOlder)
    · rw [List.mem_singleton.mp leftNew, List.mem_singleton.mp rightNew]
  restrained := numbering.restrained

end Numbering

end Circuitry.Reference
