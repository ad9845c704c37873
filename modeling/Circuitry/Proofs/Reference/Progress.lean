import Circuitry.Proofs.Compiler.Chronicle
import Circuitry.Proofs.Reference.Numbering

/-!
# Progress of the numbers

A rollback takes pairs out of the ledger but no number back.  So from the beginning of a run to its
end the pipelines make handles with consecutive numbers, however they are nested and whether they
are rolled back or not; a compiler that numbers its handles still does so; and a compilation finds a
side of the ledger taken only when a rule has seen to it.
-/

namespace Circuitry.Reference

variable {κ : Type} [Vocabulary κ] {α : Type}

/-- The moment at which the pipeline of a compilation starts. -/
def startOf (call : Compilation κ target) : Moment (backend : Backend κ) :=
  ⟨call.depth, pipeline call.circuit, call.before.openRun backend call.circuit⟩

/-- When the compilation fails because a side of the ledger is taken, it hands on the error of a
rule that its pipeline has applied, or the side is that of the circuit, which has been compiled or
registered during the run of the pipeline. -/
def Explained (call : Compilation κ target) : Prop :=
  ∀ (error : Failure κ target) (side : LedgerSide),
    call.answer = .error error → error.takenSide? = some side →
      (∃ visit ended, (startOf call).EndsWith visit error ended) ∨
        side = .circuit ∧ (startOf call).Provides call.circuit

/-- What is kept from a compiler to a later one by the deeds in between. -/
structure Progress (known : List target.Output) (compiler later : Compiler κ target)
    (deeds : List (Deed κ target)) : Prop where
  numbering : Numbering (known ++ Deed.returned deeds) later
  made : (Deed.made deeds).map (·.number) =
    List.range' (compiler.state.lastNumber + 1) (Deed.made deeds).length
  lastNumber : later.state.lastNumber = compiler.state.lastNumber + (Deed.made deeds).length
  bounded : ∀ deed ∈ deeds, Bounded deed.after.compiler ∧
    deed.after.compiler.state.lastNumber ≤ later.state.lastNumber
  explained : ∀ call, .compilation call ∈ deeds → Explained call

namespace Progress

variable {known : List target.Output} {compiler middle later : Compiler κ target}
  {deeds more : List (Deed κ target)}

theorem refl (numbering : Numbering known compiler) : Progress known compiler compiler [] where
  numbering := by
    rw [Deed.returned, List.filterMap_nil, List.append_nil]
    exact numbering
  made := rfl
  lastNumber := rfl
  bounded deed member := by cases member
  explained call member := by cases member

theorem append (first : Progress known compiler middle deeds)
    (second : Progress (known ++ Deed.returned deeds) middle later more) :
    Progress known compiler later (deeds ++ more) where
  numbering := by
    rw [Deed.returned_append, ← List.append_assoc]
    exact second.numbering
  made := by
    have next : middle.state.lastNumber + 1 =
        compiler.state.lastNumber + 1 + (Deed.made deeds).length := by
      rw [first.lastNumber, Nat.add_right_comm]
    rw [Deed.made_append, List.map_append, List.length_append, first.made, second.made, next,
      List.range'_append_1]
  lastNumber := by
    rw [Deed.made_append, List.length_append, second.lastNumber, first.lastNumber, Nat.add_assoc]
  bounded deed member := by
    rcases List.mem_append.mp member with earlier | late
    · obtain ⟨bounded, atMost⟩ := first.bounded deed earlier
      exact ⟨bounded, atMost.trans (second.lastNumber ▸ Nat.le_add_right _ _)⟩
    · exact second.bounded deed late
  explained call member := by
    rcases List.mem_append.mp member with earlier | late
    · exact first.explained call earlier
    · exact second.explained call late

/-- A deed that makes no handle. -/
theorem single {deed : Deed κ target} (after : deed.after.compiler = later)
    (numbering : Numbering (known ++ deed.returned?.toList) later)
    (lastNumber : later.state.lastNumber = compiler.state.lastNumber) (made : deed.made? = none)
    (explained : ∀ call, deed = .compilation call → Explained call) :
    Progress known compiler later [deed] := by
  have noneMade : Deed.made [deed] = [] := by
    unfold Deed.made
    rw [List.filterMap_cons_none made, List.filterMap_nil]
  refine
    { numbering := ?_, made := ?_, lastNumber := ?_, bounded := ?_, explained := ?_ }
  · rw [Deed.returned_cons, Deed.returned, List.filterMap_nil, List.append_nil]
    exact numbering
  · rw [noneMade]
    rfl
  · rw [noneMade, lastNumber]
    rfl
  · intro other member
    rw [List.mem_singleton.mp member, after]
    exact ⟨numbering.bounded, Nat.le_refl _⟩
  · intro call member
    exact explained call (List.mem_singleton.mp member).symm

theorem request {script rest : Script κ target α} {session ended : Session κ target}
    (numbering : Numbering known session.compiler) (respects : script.Respects State.Steady)
    (requested : script.afterRequest? session = some (rest, ended))
    (orderly : ∀ output, (script.firstDeed ended).registered? = some output → output ∈ known) :
    Progress known session.compiler ended.compiler [script.firstDeed ended] := by
  obtain ⟨later, lastNumber⟩ := numbering.afterRequest? respects requested orderly
  refine single ?_ ?_ lastNumber script.made?_firstDeed ?_
  · rw [script.after_firstDeed]
  · rw [script.returned?_firstDeed, Option.toList_none]
    exact later.appendNil
  · intro call same
    cases script <;> cases same

end Progress

/-! ## Runs -/

/-- The deeds of a script whose calls may nest to a depth. -/
def deedsOf (depth : Nat) (script : Script κ target α) (session : Session κ target) :
    List (Deed κ target) :=
  session.chronicle backend depth script

def compileDeeds (depth : Nat) (circuit : Circuit κ) (session : Session κ target) :
    List (Deed κ target) :=
  (Chronicler.within backend depth).compile circuit session

def applyDeeds (depth : Nat) (category : Category) (kind : κ) (node : Node κ) (announced : Bool)
    (session : Session κ target) : List (Deed κ target) :=
  (Chronicler.within backend depth).apply category kind node announced session

/-- The requests that run further scripts progress. -/
structure CallsProgress (κ : Type) [Vocabulary κ] (depth : Nat) : Prop where
  compile : ∀ {known : List target.Output} {circuit : Circuit κ} {session later : Session κ target}
    {answer : Except (Failure κ target) target.Output}, Numbering known session.compiler →
    (Calls.within backend depth).compile circuit session = some (answer, later) →
      Deed.Orderly known (compileDeeds depth circuit session) →
        Progress known session.compiler later.compiler (compileDeeds depth circuit session)
  apply : ∀ {known : List target.Output} {category : Category} {kind : κ} {node : Node κ}
    {announced : Bool} {session later : Session κ target}
    {answer : Except (Failure κ target) (target.Value category)},
    Numbering known session.compiler →
    (Calls.within backend depth).apply category kind node announced session =
        some (answer, later) →
      Deed.Orderly known (applyDeeds depth category kind node announced session) →
        Progress known session.compiler later.compiler
          (applyDeeds depth category kind node announced session)

section Runs

variable {known : List target.Output} {depth : Nat} {session ended : Session κ target}

theorem CallsProgress.runWith (calls : CallsProgress κ depth) (script : Script κ target α)
    {outcome : Except (Failure κ target) α}
    (ran : script.runWith (.within backend depth) session = some (outcome, ended)) :
    script.Respects State.Steady → ∀ known, Numbering known session.compiler →
      Deed.Orderly known (deedsOf depth script session) →
        Progress known session.compiler ended.compiler (deedsOf depth script session) := by
  refine Script.run_induction
    (motive := fun (script : Script κ target α) session _ ended =>
      script.Respects State.Steady → ∀ known, Numbering known session.compiler →
        Deed.Orderly known (deedsOf depth script session) →
          Progress known session.compiler ended.compiler (deedsOf depth script session))
    ?done ?request ?compiling ?applying script ran
  case done =>
    intro outcome session _ known numbering _
    exact .refl numbering
  case request =>
    intro script rest session later outcome ended requested inductionHypothesis respects known
      numbering orderly
    have split : deedsOf depth script session =
        [script.firstDeed later] ++ deedsOf depth rest later :=
      Script.chronicle_of_request requested
    rw [split] at orderly ⊢
    obtain ⟨first, others⟩ := Deed.orderly_append.mp orderly
    have step := Progress.request numbering respects requested fun output =>
      first.1 output
    have restRespects := (respects.afterRequest? numbering.restrained requested).1
    exact step.append (inductionHypothesis restRespects _ step.numbering others)
  case compiling =>
    intro circuit next session answer later outcome ended compiled inductionHypothesis respects
      known numbering orderly
    have split : deedsOf depth (.compiling circuit next) session =
        compileDeeds depth circuit session ++ deedsOf depth (next answer) later :=
      Script.chronicle_compiling compiled
    rw [split] at orderly ⊢
    obtain ⟨first, others⟩ := Deed.orderly_append.mp orderly
    have step := calls.compile numbering compiled first
    exact step.append (inductionHypothesis (respects answer) _ step.numbering others)
  case applying =>
    intro category kind node announced next session answer later outcome ended applied
      inductionHypothesis respects known numbering orderly
    have split : deedsOf depth (.applying category kind node announced next) session =
        applyDeeds depth category kind node announced session ++
          deedsOf depth (next answer) later :=
      Script.chronicle_applying applied
    rw [split] at orderly ⊢
    obtain ⟨first, others⟩ := Deed.orderly_append.mp orderly
    have step := calls.apply numbering applied first
    exact step.append (inductionHypothesis (respects answer) _ step.numbering others)

/-- The deeds of the pipeline: it counts its run and reads the options, and then it assembles. -/
theorem deedsOf_pipeline (depth : Nat) (circuit : Circuit κ) (session : Session κ target) :
    deedsOf depth (pipeline circuit) session =
      [.request (session.update State.countRun), .request (session.update State.countRun)] ++
        deedsOf depth (assembleRead circuit (Options.ofFlags session.compiler.flags))
          (session.update State.countRun) :=
  rfl

theorem Progress.counted {known : List target.Output} {session : Session κ target}
    (numbering : Numbering known session.compiler) :
    Progress known session.compiler (session.update State.countRun).compiler
      [.request (session.update State.countRun), .request (session.update State.countRun)] := by
  have counted : Numbering known (session.update State.countRun).compiler :=
    numbering.of_sameLedger rfl rfl rfl numbering.restrained
  have first : Progress known session.compiler (session.update State.countRun).compiler
      [.request (session.update State.countRun)] :=
    .single rfl counted.appendNil rfl rfl fun call same => by cases same
  refine first.append (.single rfl counted.appendNil.appendNil rfl rfl fun call same => ?_)
  cases same

/-- The deeds of the assembly of a handle: those of the assembly of the program, and the taking of a
number if there is a program. -/
theorem deedsOf_assembleHandle {circuit : Circuit κ} {options : Options}
    {outcome : Except (Failure κ target) Program}
    (ran : (assembleProgram circuit options).runWith (.within backend depth) session =
      some (outcome, ended)) :
    deedsOf depth (assembleHandle circuit options) session =
      deedsOf depth (assembleProgram circuit options) session ++
        match outcome with
        | .ok _ =>
          [.request (ended.update State.takeNumber), .request (ended.update State.takeNumber)]
        | .error _ => [] := by
  have split := Script.chronicle_bind (.within backend depth)
    (fun program => do
      changeState State.takeNumber
      let state ← currentState
      return (⟨state.origin, state.lastNumber, program⟩ : Handle)) ran
  refine split.trans ?_
  cases outcome <;> rfl

/-- How the run of a pipeline has progressed when it ends: it has failed, or it has assembled a
program and then taken the next number for the handle. -/
theorem CallsProgress.runPipeline (calls : CallsProgress κ depth) {circuit : Circuit κ}
    {result : Except (Failure κ target) Handle} (numbering : Numbering known session.compiler)
    (ran : (pipeline circuit).runWith (.within backend depth) session = some (result, ended))
    (orderly : Deed.Orderly known (deedsOf depth (pipeline circuit) session)) :
    (∃ error, result = .error error ∧
      Progress known session.compiler ended.compiler (deedsOf depth (pipeline circuit) session)) ∨
    ∃ (middle : Session κ target) (program : Program) (deeds : List (Deed κ target)),
      result = .ok (nextHandle middle.compiler program) ∧ ended = middle.update State.takeNumber ∧
      deedsOf depth (pipeline circuit) session = deeds ++ [.request ended, .request ended] ∧
      Progress known session.compiler middle.compiler deeds := by
  have counted := Progress.counted numbering
  rw [deedsOf_pipeline] at orderly ⊢
  obtain ⟨-, others⟩ := Deed.orderly_append.mp orderly
  cases read : Options.ofFlags session.compiler.flags with
  | error fault =>
      have failed := runWith_pipeline_of_fault (.within backend depth) circuit read
      cases failed.symm.trans ran
      exact Or.inl ⟨_, rfl, counted⟩
  | ok options =>
      have begun := runWith_pipeline_of_options (.within backend depth) circuit read
      have assembles := begun.symm.trans ran
      have sameDeeds : deedsOf depth (assembleRead circuit (.ok options))
          (session.update State.countRun) =
            deedsOf depth (assembleHandle circuit options) (session.update State.countRun) := rfl
      rw [read, sameDeeds] at others
      rw [sameDeeds]
      obtain ⟨error, rfl, assembled⟩ | ⟨program, middle, rfl, rfl, assembled⟩ :=
        assembleHandle_cases assembles
      · rw [deedsOf_assembleHandle assembled, List.append_nil] at others ⊢
        have assembly := calls.runWith _ assembled
          (assembles_assembleProgram circuit options).respects _ counted.numbering others
        exact Or.inl ⟨error, rfl, counted.append assembly⟩
      · rw [deedsOf_assembleHandle assembled] at others ⊢
        have first := (Deed.orderly_append.mp others).1
        have assembly := calls.runWith _ assembled
          (assembles_assembleProgram circuit options).respects _ counted.numbering first
        exact Or.inr ⟨middle, program, _, rfl, rfl, (List.append_assoc _ _ _).symm,
          counted.append assembly⟩

/-! ## Compilations -/

/-- An answer from the ledger gives out a handle again. -/
theorem Progress.found {circuit : Circuit κ} {handle : target.Output}
    (numbering : Numbering known session.compiler)
    (found : session.compiler.ledger.valueOf? circuit = some handle) (events : List (Event κ)) :
    Progress known session.compiler (session.report events).compiler
      [.compilation ⟨depth, circuit, session, none, .ok handle, session.report events⟩] := by
  refine .single rfl (numbering.repeated (numbering.mem_of_valueOf? found)) rfl rfl ?_
  intro call same
  cases same
  intro error side failed
  cases failed

/-- The end of a pipeline that has made no handle. -/
theorem Progress.failed {circuit : Circuit κ} {deeds : List (Deed κ target)}
    {error : Failure κ target} (numbering : Numbering known session.compiler)
    (progress : Progress known session.compiler ended.compiler deeds)
    (grows : session.LedgerGrows ended)
    (ran : (pipeline circuit).runWith (.within backend depth) (session.openRun backend circuit) =
      some (.error error, ended)) :
    Progress known session.compiler
      (ended.abort session.compiler.ledger.checkpoint error).compiler
      (deeds ++ [.compilation
        ⟨depth, circuit, session, some (.error error), .error error,
          ended.abort session.compiler.ledger.checkpoint error⟩]) := by
  refine progress.append (.single rfl ?_ rfl rfl ?_)
  · have older : known ⊆ known ++ Deed.returned deeds := List.subset_append_left _ _
    exact (progress.numbering.abort numbering older grows error).appendNil
  · intro call same
    cases same
    intro cause side failed taken
    cases failed
    obtain ⟨visit, ends⟩ := pipeline_endsWith ran taken
    exact Or.inl ⟨visit, ended, ends⟩

/-- The end of a pipeline that has made a handle, from the moment before it took the number. -/
theorem Progress.took {compiler later : Compiler κ target} {taken : Session κ target}
    {call : Compilation κ target} {program : Program} (before : Numbering known compiler)
    (number : taken.compiler = { compiler with state := compiler.state.takeNumber })
    (after : call.after.compiler = later) (state : later.state = compiler.state.takeNumber)
    (result : call.result = some (.ok (nextHandle compiler program)))
    (numbering : Numbering (known ++ call.answer.toOption.toList) later)
    (explained : Explained call) :
    Progress known compiler later [.request taken, .request taken, .compilation call] := by
  have next : later.state.lastNumber = compiler.state.lastNumber + 1 :=
    congrArg State.lastNumber state
  have made : Deed.made [.request taken, .request taken, .compilation call] =
      [nextHandle compiler program] := by
    have madeLast : (Deed.compilation call).made? = some (nextHandle compiler program) :=
      congrArg (fun result => result.bind Except.toOption) result
    unfold Deed.made
    rw [List.filterMap_cons_none rfl, List.filterMap_cons_none rfl,
      List.filterMap_cons_some madeLast, List.filterMap_nil]
  have takenBounded : Bounded taken.compiler ∧
      taken.compiler.state.lastNumber ≤ later.state.lastNumber := by
    rw [number, next]
    exact ⟨before.skip.bounded, Nat.le_refl _⟩
  refine
    { numbering := ?_, made := ?_, lastNumber := ?_, bounded := ?_, explained := ?_ }
  · rw [Deed.returned_cons, Deed.returned_cons, Deed.returned_cons, Deed.returned]
    simpa [Deed.returned?] using numbering
  · rw [made]
    rfl
  · rw [made]
    exact next
  · intro deed member
    simp only [List.mem_cons, List.not_mem_nil, or_false] at member
    rcases member with rfl | rfl | rfl
    · exact takenBounded
    · exact takenBounded
    · rw [Deed.after, after]
      exact ⟨numbering.bounded, Nat.le_refl _⟩
  · intro other member
    simp only [List.mem_cons, List.not_mem_nil, or_false, reduceCtorEq, false_or,
      Deed.compilation.injEq] at member
    exact member ▸ explained

/-- The end of a pipeline that has made a handle: the handle is new, so it can only be refused when
the circuit has got another one in the meantime. -/
theorem Progress.finished {circuit : Circuit κ} {middle after : Session κ target}
    {program : Program} {deeds : List (Deed κ target)}
    {answer : Except (Failure κ target) target.Output}
    (numbering : Numbering known session.compiler)
    (missing : session.compiler.ledger.valueOf? circuit = none)
    (progress : Progress known session.compiler middle.compiler deeds)
    (grows : session.LedgerGrows (middle.update State.takeNumber))
    (ran : (pipeline circuit).runWith (.within backend depth) (session.openRun backend circuit) =
      some (.ok (nextHandle middle.compiler program), middle.update State.takeNumber))
    (concluded : (middle.update State.takeNumber).conclude session.compiler.ledger.checkpoint
      circuit (.ok (nextHandle middle.compiler program)) = (answer, after)) :
    Progress known session.compiler after.compiler
      (deeds ++ [.request (middle.update State.takeNumber),
        .request (middle.update State.takeNumber), .compilation
          ⟨depth, circuit, session, some (.ok (nextHandle middle.compiler program)), answer,
            after⟩]) := by
  have before := progress.numbering
  cases found : middle.compiler.ledger.valueOf? circuit with
  | some existing =>
      have different := before.beq_next program (before.mem_of_valueOf? found)
      have refused : (middle.update State.takeNumber).conclude session.compiler.ledger.checkpoint
          circuit (.ok (nextHandle middle.compiler program)) = _ :=
        Session.conclude_of_refused (Compiler.settle_of_different found different)
      cases refused.symm.trans concluded
      refine progress.append (.took before rfl rfl rfl rfl ?_ ?_)
      · exact (before.skip.abort numbering (List.subset_append_left _ _) grows _).appendNil
      · intro error side failed taken
        cases failed
        cases taken
        have learned : Session.Learns (session.openRun backend circuit)
            (middle.update State.takeNumber) circuit :=
          ⟨missing, found ▸ Option.some_ne_none existing⟩
        exact Or.inr ⟨rfl, Moment.provides_of_runWith ran learned⟩
  | none =>
      have free : middle.compiler.ledger.Free circuit (nextHandle middle.compiler program) :=
        ⟨found, before.keyOf?_next program⟩
      have settled : (middle.update State.takeNumber).conclude session.compiler.ledger.checkpoint
          circuit (.ok (nextHandle middle.compiler program)) = _ :=
        Session.conclude_of_settled (Compiler.settle_of_free before.consistent free)
      cases settled.symm.trans concluded
      refine progress.append (.took before rfl rfl rfl rfl ?_ ?_)
      · exact before.insert program found
      · intro error side failed
        cases failed

theorem CallsProgress.compileWith (calls : CallsProgress κ depth) {circuit : Circuit κ}
    {answer : Except (Failure κ target) target.Output}
    (numbering : Numbering known session.compiler)
    (compiled : Calls.compileWith backend (.within backend depth) circuit session =
      some (answer, ended))
    (orderly : Deed.Orderly known (compileDeeds (depth + 1) circuit session)) :
    Progress known session.compiler ended.compiler (compileDeeds (depth + 1) circuit session) := by
  cases found : session.compiler.ledger.valueOf? circuit with
  | some handle =>
      cases (Calls.compileWith_of_found _ found).symm.trans compiled
      have deeds : compileDeeds (depth + 1) circuit session = _ := Chronicler.compile_of_found found
      rw [deeds]
      exact .found numbering found _
  | none =>
      obtain ⟨result, last, ran, concluded⟩ := Calls.compileWith_of_missing _ found compiled
      have deeds : compileDeeds (depth + 1) circuit session =
          deedsOf depth (pipeline circuit) (session.openRun backend circuit) ++
            [.compilation ⟨depth, circuit, session, some result, answer, ended⟩] := by
        refine (Chronicler.compile_of_missing found ran).trans ?_
        rw [concluded]
        rfl
      have grows : session.LedgerGrows last := Session.ledgerGrows_of_pipeline ran
      have opened : Numbering known (session.openRun backend circuit).compiler := numbering
      rw [deeds] at orderly ⊢
      obtain ⟨error, rfl, progress⟩ | ⟨middle, program, others, rfl, rfl, split, progress⟩ :=
        calls.runPipeline opened ran (Deed.orderly_append.mp orderly).1
      · cases concluded
        exact .failed numbering progress grows ran
      · rw [split, List.append_assoc]
        exact .finished numbering found progress grows ran concluded

theorem callsProgress : ∀ depth, CallsProgress κ depth
  | 0 =>
    { compile := fun _ compiled => by cases compiled
      apply := fun _ applied => by cases applied }
  | depth + 1 => by
    have inner := callsProgress depth
    refine
      { compile := fun numbering compiled => inner.compileWith numbering compiled, apply := ?_ }
    intro known category kind node announced session later answer numbering applied orderly
    obtain ⟨error, missing, -, unchanged⟩ | ⟨rule, found, ran⟩ := Calls.apply_cases applied
    · have deeds : applyDeeds (depth + 1) category kind node announced session = [] :=
        Chronicler.apply_of_missing missing
      rw [deeds, unchanged]
      exact .refl numbering
    · have deeds : applyDeeds (depth + 1) category kind node announced session = _ :=
        Chronicler.apply_of_found found
      rw [deeds] at orderly ⊢
      have respects := numbering.restrained.of_find found node
      cases announced with
      | true => exact inner.runWith _ ran respects known numbering orderly
      | false => exact inner.runWith _ ran respects known numbering orderly

end Runs

end Circuitry.Reference
