import Circuitry.Proofs.Reference.Handles

/-!
# Independence from history

A reference compiler has a ledger, statistics and a counter, and every compilation changes them, a
failed one too.  When its rules look at the node and the flags only, none of that finds its way into
a program: whatever a compiler has done before, a circuit that it has not compiled is compiled as a
new compiler with the same rules and flags would compile it.
-/

namespace Circuitry.Reference

variable {κ : Type} [Vocabulary κ] {α : Type}

/-- What a compiler is set up with. -/
structure Setup (κ : Type) [Vocabulary κ] where
  rules : Rulebook κ target
  flags : Flags

def setupOf (compiler : Compiler κ target) : Setup κ :=
  ⟨compiler.rules, compiler.flags⟩

/-- Nothing but the statistics has changed from the compiler to the later one. -/
structure Calm (compiler later : Compiler κ target) : Prop where
  setup : setupOf later = setupOf compiler
  ledger : later.ledger = compiler.ledger
  lastNumber : later.state.lastNumber = compiler.state.lastNumber
  origin : later.state.origin = compiler.state.origin

namespace Calm

variable {compiler middle later : Compiler κ target}

theorem refl (compiler : Compiler κ target) : Calm compiler compiler :=
  ⟨rfl, rfl, rfl, rfl⟩

theorem trans (first : Calm compiler middle) (second : Calm middle later) :
    Calm compiler later where
  setup := second.setup.trans first.setup
  ledger := second.ledger.trans first.ledger
  lastNumber := second.lastNumber.trans first.lastNumber
  origin := second.origin.trans first.origin

theorem update {change : State → State} (steady : State.Steady change)
    (session : Session κ target) : Calm session.compiler (session.update change).compiler :=
  ⟨rfl, rfl, (steady session.compiler.state).1, (steady session.compiler.state).2⟩

theorem numbering {known : List target.Output} (calm : Calm compiler later)
    (numbering : Numbering known compiler) : Numbering known later := by
  refine numbering.of_sameLedger calm.ledger calm.lastNumber calm.origin ?_
  have rules : later.rules = compiler.rules := congrArg Setup.rules calm.setup
  rw [rules]
  exact numbering.restrained

end Calm

/-- In every compiler that is set up so the script ends with the outcome, and nothing but the
statistics changes. -/
def Setup.Decides (setup : Setup κ) (script : Script κ target α)
    (outcome : Except (Failure κ target) α) : Prop :=
  ∀ (depth : Nat) (session : Session κ target), setupOf session.compiler = setup →
    ∃ later, script.runWith (.within backend (depth + 1)) session = some (outcome, later) ∧
      Calm session.compiler later.compiler

section Setup

variable {setup : Setup κ} {results : Results κ target}

theorem Setup.exists_answer (follows : setup.rules.FollowsUnder setup.flags results)
    (visit : Visit κ) :
    ∃ answer : Except (Failure κ target) (target.Value visit.category),
      ∀ (depth : Nat) (session : Session κ target), setupOf session.compiler = setup →
        ∃ later : Session κ target,
          (Calls.within backend (depth + 1)).apply visit.category visit.node.kind visit.node true
              session = some (answer, later) ∧
          Calm session.compiler later.compiler := by
  obtain ⟨answer, answered⟩ :=
    Rulebook.FollowsUnder.exists_answer backend follows visit.category visit.node
  refine ⟨answer, fun depth session same => ?_⟩
  obtain ⟨later, applied, unchanged⟩ := answered depth true session
    (congrArg Setup.rules same) (congrArg Setup.flags same)
  have calm : Calm session.compiler later.compiler := by
    rw [unchanged]
    exact .refl _
  exact ⟨later, applied, calm⟩

/-- The outcome is chosen before any session is given, visit by visit. -/
theorem Setup.exists_decides (follows : setup.rules.FollowsUnder setup.flags results)
    {script : Script κ target α} (assembles : Assembles script) :
    ∃ outcome, setup.Decides script outcome := by
  induction assembles with
  | done value => exact ⟨.ok value, fun depth session _ => ⟨session, rfl, .refl _⟩⟩
  | @fail error _ => exact ⟨.error error, fun depth session _ => ⟨session, rfl, .refl _⟩⟩
  | @applying visit next hands _ inductionHypothesis =>
      obtain ⟨answer, answered⟩ := Setup.exists_answer follows visit
      cases answer with
      | error error =>
          refine ⟨.error error, fun depth session same => ?_⟩
          obtain ⟨later, applied, calm⟩ := answered depth session same
          have ran := Script.runWith_applying next applied
          rw [hands error] at ran
          exact ⟨later, ran, calm⟩
      | ok value =>
          obtain ⟨outcome, decides⟩ := inductionHypothesis value
          refine ⟨outcome, fun depth session same => ?_⟩
          obtain ⟨middle, applied, calm⟩ := answered depth session same
          obtain ⟨later, ran, calmLater⟩ := decides depth middle (calm.setup.trans same)
          exact ⟨later, (Script.runWith_applying next applied).trans ran, calm.trans calmLater⟩
  | @updating change next steady _ inductionHypothesis =>
      obtain ⟨outcome, decides⟩ := inductionHypothesis
      refine ⟨outcome, fun depth session same => ?_⟩
      obtain ⟨later, ran, calm⟩ := decides depth (session.update change) same
      exact ⟨later, ran, (Calm.update steady session).trans calm⟩
  | noting _ inductionHypothesis =>
      obtain ⟨outcome, decides⟩ := inductionHypothesis
      exact ⟨outcome, fun depth session same => decides depth (session.report _) same⟩

/-- How a pipeline ends whose program has an outcome: it fails with the error, or it takes the next
number for the program. -/
inductive Produces (compiler : Compiler κ target) :
    Except (Failure κ target) Program → Except (Failure κ target) Handle → Session κ target → Prop
  | failed {error : Failure κ target} {ended : Session κ target} :
      Calm compiler ended.compiler → Produces compiler (.error error) (.error error) ended
  | made {program : Program} {middle : Session κ target} :
      Calm compiler middle.compiler →
      Produces compiler (.ok program) (.ok (nextHandle middle.compiler program))
        (middle.update State.takeNumber)

/-- The circuits differ in their identity at most. -/
def IsTwin (circuit twin : Circuit κ) : Prop :=
  { circuit with id := twin.id } = twin

theorem assembleProgram_of_isTwin {circuit twin : Circuit κ} (same : IsTwin circuit twin)
    (options : Options) :
    (assembleProgram twin options : Script κ target Program) = assembleProgram circuit options := by
  rw [← same]
  rfl

theorem produces_of_assembled {calls : Calls κ target} {circuit : Circuit κ} {options : Options}
    {compiler : Compiler κ target} {session middle : Session κ target}
    {outcome : Except (Failure κ target) Program} (calm : Calm compiler middle.compiler)
    (assembled : (assembleProgram circuit options).runWith calls session = some (outcome, middle)) :
    ∃ result ended,
      (assembleHandle circuit options).runWith calls session = some (result, ended) ∧
        Produces compiler outcome result ended := by
  rw [runWith_assembleHandle, assembled]
  cases outcome with
  | error error => exact ⟨_, _, rfl, .failed calm⟩
  | ok program => exact ⟨_, _, rfl, .made calm⟩

/-- The setup decides how the pipelines of a circuit and its twins end. -/
theorem Setup.exists_produces (follows : setup.rules.FollowsUnder setup.flags results)
    (circuit : Circuit κ) :
    ∃ outcome, ∀ twin, IsTwin circuit twin →
      ∀ (depth : Nat) (session : Session κ target), setupOf session.compiler = setup →
        ∃ (result : Except (Failure κ target) Handle) (ended : Session κ target),
          (pipeline twin).runWith (.within backend (depth + 1)) session = some (result, ended) ∧
            Produces session.compiler outcome result ended := by
  have counts (session : Session κ target) :
      Calm session.compiler (session.update State.countRun).compiler :=
    have steady : State.Steady State.countRun := fun _ => ⟨rfl, rfl⟩
    .update steady session
  cases read : Options.ofFlags setup.flags with
  | error fault =>
      refine ⟨.error (.flag fault), fun twin _ depth session same => ?_⟩
      rw [← same] at read
      exact ⟨_, _, runWith_pipeline_of_fault (.within backend (depth + 1)) twin read,
        .failed (counts session)⟩
  | ok options =>
      obtain ⟨outcome, decides⟩ :=
        Setup.exists_decides follows (assembles_assembleProgram circuit options)
      refine ⟨outcome, fun twin isTwin depth session same => ?_⟩
      rw [← same] at read
      have begun := runWith_pipeline_of_options (.within backend (depth + 1)) twin read
      obtain ⟨middle, assembled, calm⟩ := decides depth (session.update State.countRun) same
      rw [← assembleProgram_of_isTwin isTwin] at assembled
      obtain ⟨result, ended, ran, produces⟩ :=
        produces_of_assembled ((counts session).trans calm) assembled
      exact ⟨result, ended, begun.trans ran, produces⟩

/-! ## Compilations -/

/-- How a compilation ends whose program has an outcome: the answer is the error or a handle of the
program, and nothing happens to the setup and to other circuits. -/
structure Concluded (circuit : Circuit κ) (session later : Session κ target)
    (outcome : Except (Failure κ target) Program) (answer : Except (Failure κ target) Handle) :
    Prop where
  content : answer.map (·.content) = outcome
  setup : setupOf later.compiler = setupOf session.compiler
  numbering : ∃ known, Numbering known later.compiler
  others : ∀ other : Circuit κ, other.id ≠ circuit.id →
    later.compiler.ledger.valueOf? other = session.compiler.ledger.valueOf? other

theorem Produces.concluded {known : List target.Output} {circuit : Circuit κ}
    {session ended : Session κ target} {outcome : Except (Failure κ target) Program}
    {result : Except (Failure κ target) Handle}
    (produces : Produces session.compiler outcome result ended)
    (numbering : Numbering known session.compiler)
    (missing : session.compiler.ledger.valueOf? circuit = none) :
    ∃ answer later, ended.conclude session.compiler.ledger.checkpoint circuit result =
        (answer, later) ∧ Concluded circuit session later outcome answer := by
  cases produces with
  | @failed error _ calm =>
      have restored : (ended.compiler.ledger.rollback session.compiler.ledger.checkpoint).1 =
          session.compiler.ledger := by
        rw [calm.ledger, Ledger.rollback_self]
      refine ⟨.error error, ended.abort session.compiler.ledger.checkpoint error, rfl, ?_⟩
      refine
        { content := rfl, setup := calm.setup, numbering := ⟨known, ?_⟩, others := ?_ }
      · exact (calm.numbering numbering).of_sameLedger (restored.trans calm.ledger.symm) rfl rfl
          (calm.numbering numbering).restrained
      · intro other _
        exact congrArg (fun ledger => ledger.valueOf? other) restored
  | @made program middle calm =>
      have before := calm.numbering numbering
      have stillMissing : middle.compiler.ledger.valueOf? circuit = none := by
        rw [calm.ledger]
        exact missing
      have free : middle.compiler.ledger.Free circuit (nextHandle middle.compiler program) :=
        ⟨stillMissing, before.keyOf?_next program⟩
      have settled : (middle.update State.takeNumber).compiler.settle circuit
          (nextHandle middle.compiler program) = _ :=
        Compiler.settle_of_free before.consistent free
      refine ⟨_, _, Session.conclude_of_settled settled, ?_⟩
      refine
        { content := rfl, setup := calm.setup
          numbering := ⟨_, before.insert program stillMissing⟩, others := ?_ }
      intro other different
      have apart : (other == circuit) = false :=
        Bool.eq_false_iff.mpr fun same => different ((Circuit.beq_iff other circuit).mp same)
      have kept := Compiler.valueOf?_of_settle_other settled apart
      exact kept.trans (congrArg (fun ledger => ledger.valueOf? other) calm.ledger)

theorem Produces.compiled {known : List target.Output} {depth : Nat} {circuit : Circuit κ}
    {session ended : Session κ target} {outcome : Except (Failure κ target) Program}
    {result : Except (Failure κ target) Handle}
    (produces : Produces session.compiler outcome result ended)
    (ran : (pipeline circuit).runWith (.within backend (depth + 1))
      (session.openRun backend circuit) = some (result, ended))
    (numbering : Numbering known session.compiler)
    (missing : session.compiler.ledger.valueOf? circuit = none) :
    ∃ answer later,
      (Calls.within backend (depth + 2)).compile circuit session = some (answer, later) ∧
        Concluded circuit session later outcome answer := by
  obtain ⟨answer, later, concluded, facts⟩ := produces.concluded numbering missing
  have compiled := Calls.compileWith_of_ran (.within backend (depth + 1)) missing ran
  exact ⟨answer, later, compiled.trans (congrArg some concluded), facts⟩

/-- Every compiler that is set up so, numbers its handles and has none for the circuit compiles the
circuit with the outcome. -/
def Setup.Compiles (setup : Setup κ) (depth : Nat) (circuit : Circuit κ)
    (outcome : Except (Failure κ target) Program) : Prop :=
  ∀ (known : List target.Output) (session : Session κ target),
    setupOf session.compiler = setup → Numbering known session.compiler →
      session.compiler.ledger.valueOf? circuit = none →
        ∃ (answer : Except (Failure κ target) Handle) (later : Session κ target),
          (Calls.within backend depth).compile circuit session = some (answer, later) ∧
            Concluded circuit session later outcome answer

theorem Setup.exists_compiles (follows : setup.rules.FollowsUnder setup.flags results)
    (circuit : Circuit κ) :
    ∃ outcome, ∀ twin, IsTwin circuit twin → ∀ depth, setup.Compiles (depth + 2) twin outcome := by
  obtain ⟨outcome, produced⟩ := Setup.exists_produces follows circuit
  refine ⟨outcome, fun twin isTwin depth known session same numbering missing => ?_⟩
  obtain ⟨result, ended, ran, (produces : Produces session.compiler outcome result ended)⟩ :=
    produced twin isTwin depth (session.openRun backend twin) same
  exact produces.compiled ran numbering missing

end Setup

/-- Compiles circuits one after the other, whether they succeed or not. -/
def compileEach : List (Circuit κ) →
    Script κ target (List (Circuit κ × Except (Failure κ target) Handle))
  | [] => pure []
  | circuit :: rest =>
    .compiling circuit fun answer => do
      let others ← compileEach rest
      return (circuit, answer) :: others

/-- The programs of compiled circuits, without the numbers of the handles. -/
def programsOf (answers : List (Circuit κ × Except (Failure κ target) Handle)) :
    List (Circuit κ × Except (Failure κ target) Program) :=
  answers.map fun answer => (answer.1, answer.2.map (·.content))

/-- The circuits have different identities, and the compiler has not compiled any of them. -/
structure Uncompiled (circuits : List (Circuit κ)) (compiler : Compiler κ target) : Prop where
  distinct : (circuits.map (·.id)).Nodup
  missing : ∀ circuit ∈ circuits, compiler.ledger.valueOf? circuit = none

/-- Compiling circuits in turn gives each of them what it would get alone.  The induction is on the
circuits: compiling the first one leaves the others without a handle. -/
theorem Setup.runWith_compileEach {setup : Setup κ} {depth : Nat}
    {outcomeOf : Circuit κ → Except (Failure κ target) Program}
    (compiles : ∀ circuit, setup.Compiles depth circuit (outcomeOf circuit))
    (circuits : List (Circuit κ)) :
    ∀ (known : List target.Output) (session : Session κ target),
      setupOf session.compiler = setup → Numbering known session.compiler →
        Uncompiled circuits session.compiler →
          ∃ answers later,
            (compileEach circuits).runWith (.within backend depth) session =
                some (.ok answers, later) ∧
              programsOf answers = circuits.map fun circuit => (circuit, outcomeOf circuit) := by
  induction circuits with
  | nil => exact fun known session _ _ _ => ⟨[], session, rfl, rfl⟩
  | cons circuit rest inductionHypothesis =>
      intro known session same numbering uncompiled
      have missing := uncompiled.missing circuit List.mem_cons_self
      obtain ⟨answer, middle, compiled, concluded⟩ :=
        compiles circuit known session same numbering missing
      obtain ⟨knownLater, numberingLater⟩ := concluded.numbering
      have distinct := uncompiled.distinct
      rw [List.map_cons, List.nodup_cons] at distinct
      have uncompiledRest : Uncompiled rest middle.compiler := by
        refine ⟨distinct.2, fun other member => ?_⟩
        have different : other.id ≠ circuit.id := fun equal =>
          distinct.1 (equal ▸ List.mem_map_of_mem member)
        rw [concluded.others other different]
        exact uncompiled.missing other (List.mem_cons_of_mem _ member)
      obtain ⟨others, later, ran, programs⟩ := inductionHypothesis knownLater middle
        (concluded.setup.trans same) numberingLater uncompiledRest
      refine ⟨(circuit, answer) :: others, later, ?_, ?_⟩
      · have continued := Script.runWith_compiling (fun answer => do
            let others ← compileEach rest
            return (circuit, answer) :: others) compiled
        exact continued.trans (Script.runWith_bind_of_ok _ ran)
      · rw [programsOf, List.map_cons, List.map_cons, concluded.content]
        exact congrArg _ programs

/-! ## Independence -/

/-- The compiler of the session has come about: a new one has run a script to its end. -/
def Arises (session : Session κ target) : Prop :=
  ∃ (β : Type) (depth : Nat) (script : Script κ target β) (start : Session κ target)
    (outcome : Except (Failure κ target) β), Runs depth script start outcome session

theorem Arises.exists_numbering {session : Session κ target} (arises : Arises session) :
    ∃ known, Numbering known session.compiler := by
  obtain ⟨β, depth, script, start, outcome, runs⟩ := arises
  exact ⟨_, runs.progress.numbering⟩

/-- A new compiler has come about by doing nothing. -/
theorem arises_of_empty {session : Session κ target} (empty : session.compiler.ledger = .empty)
    (unnumbered : session.compiler.state.lastNumber = 0)
    (restrained : session.compiler.rules.Respects State.Steady) : Arises session :=
  ⟨Unit, 0, .done (.ok ()), session, .ok (), empty, unnumbered, restrained, trivial, rfl, trivial⟩

/-- Compilation does not depend on history.  Take two compilers with the same rules and flags, one
of which may be new, and let the rules be quiet under the flags.  Whatever has been compiled, has
failed or has been registered before, a circuit that neither compiler has compiled ends in both of
them with the same error or with equal programs, and so do circuits that are built alike.  Circuits
that are compiled in turn, by each compiler in an order of its own, get the same errors and equal
programs; only the numbers of the handles differ.  The counters are natural numbers, so they never
run out. -/
theorem compile_history_free {session other : Session κ target} {results : Results κ target}
    (arises : Arises session) (otherArises : Arises other)
    (sameSetup : setupOf other.compiler = setupOf session.compiler)
    (follows : session.compiler.rules.FollowsUnder session.compiler.flags results)
    (depth otherDepth : Nat) :
    (∀ circuit twin, IsTwin circuit twin →
      session.compiler.ledger.valueOf? circuit = none →
        other.compiler.ledger.valueOf? twin = none →
          ∃ (answer otherAnswer : Except (Failure κ target) Handle)
            (later otherLater : Session κ target),
            (Calls.within backend (depth + 2)).compile circuit session = some (answer, later) ∧
              (Calls.within backend (otherDepth + 2)).compile twin other =
                some (otherAnswer, otherLater) ∧
              answer.map (·.content) = otherAnswer.map (·.content)) ∧
      ∀ circuits reordered : List (Circuit κ), circuits.Perm reordered →
        Uncompiled circuits session.compiler → Uncompiled reordered other.compiler →
          ∃ answers otherAnswers later otherLater,
            session.perform backend (depth + 2) (compileEach circuits) =
                some (.ok answers, later) ∧
              other.perform backend (otherDepth + 2) (compileEach reordered) =
                some (.ok otherAnswers, otherLater) ∧
              (programsOf answers).Perm (programsOf otherAnswers) := by
  obtain ⟨known, numbering⟩ := arises.exists_numbering
  obtain ⟨otherKnown, otherNumbering⟩ := otherArises.exists_numbering
  have decided (circuit : Circuit κ) : ∃ outcome, ∀ twin, IsTwin circuit twin →
      ∀ depth, (setupOf session.compiler).Compiles (depth + 2) twin outcome :=
    Setup.exists_compiles follows circuit
  choose outcomeOf compiles using decided
  constructor
  · intro circuit twin isTwin missing otherMissing
    obtain ⟨answer, later, compiled, facts⟩ :=
      compiles circuit circuit rfl depth known session rfl numbering missing
    obtain ⟨otherAnswer, otherLater, otherCompiled, otherFacts⟩ :=
      compiles circuit twin isTwin otherDepth otherKnown other sameSetup otherNumbering otherMissing
    exact ⟨answer, otherAnswer, later, otherLater, compiled, otherCompiled,
      facts.content.trans otherFacts.content.symm⟩
  · intro circuits reordered permuted uncompiled otherUncompiled
    obtain ⟨answers, later, ran, programs⟩ := Setup.runWith_compileEach
      (fun circuit => compiles circuit circuit rfl depth) circuits known session rfl numbering
      uncompiled
    obtain ⟨otherAnswers, otherLater, otherRan, otherPrograms⟩ := Setup.runWith_compileEach
      (fun circuit => compiles circuit circuit rfl otherDepth) reordered otherKnown other sameSetup
      otherNumbering otherUncompiled
    refine ⟨answers, otherAnswers, later, otherLater, ran, otherRan, ?_⟩
    rw [programs, otherPrograms]
    exact permuted.map _

namespace Busy

/-- The layer is as wide as the flags say. -/
def layer (flags : Flags) : Except (Failure Kind target) LayerOp :=
  match flags.boolOr "wide" false with
  | .ok wide => .ok (.hadamard (if wide then 2 else 1) 1)
  | .error fault => .error (.flag fault)

def results (flags : Flags) : Results Kind target
  | .layer, ⟨.alpha, _⟩ => layer flags
  | _, _ => .error (.pipeline "no layer")

def rules : Rulebook Kind target where
  layers :=
    ⟨.layer, .reject,
      [(.alpha, fun _ => .viewing fun seen => .done (layer seen.flags)),
       (.beta, fun _ => .done (.error (.pipeline "no layer")))]⟩
  parameters := .empty .parameter .reject
  initializers := .empty .initializer .reject

def flags : Flags := .ofList [("wide", .bool true)]

theorem rules_followsUnder (flags : Flags) : rules.FollowsUnder flags (results flags) := by
  refine Rulebook.followsUnder_of_forall fun category => ?_
  cases category with
  | layer =>
      refine List.forall_mem_cons.mpr ⟨?_, List.forall_mem_cons.mpr ⟨?_, List.forall_mem_nil _⟩⟩
      · rintro ⟨kind, payload⟩ rfl
        refine .viewing fun seen same => ?_
        rw [same]
        exact .done _
      · rintro ⟨kind, payload⟩ rfl
        exact .done _
  | parameter => exact List.forall_mem_nil _
  | initializer => exact List.forall_mem_nil _

theorem rules_respects : rules.Respects State.Steady := by
  refine Rulebook.respects_of_forall fun category => ?_
  cases category with
  | layer =>
      refine List.forall_mem_cons.mpr ⟨fun _ _ => trivial, ?_⟩
      exact List.forall_mem_cons.mpr ⟨fun _ => trivial, List.forall_mem_nil _⟩
  | parameter => exact List.forall_mem_nil _
  | initializer => exact List.forall_mem_nil _

def session : Session Kind target :=
  ⟨⟨({} : State), rules, flags, .empty⟩, #[], {}, []⟩

/-- One circuit fails, another one is compiled, and the first one fails again. -/
def history : Script Kind target Unit :=
  .compiling Reissue.nesting fun _ => .compiling Reissue.plain fun _ =>
    .compiling Reissue.nesting fun _ => .done (.ok ())

def handle : Handle :=
  ⟨0, 1, ⟨none, .lseSum, [⟨.hadamard 2 1, [], .empty⟩], [0]⟩⟩

theorem runs_history : ∃ ended, Runs 2 history session (.ok ()) ended ∧
    setupOf session.compiler = setupOf ended.compiler ∧
    ended.compiler.ledger = .ofPairs [(Reissue.plain, handle)] ∧
    ended.compiler.state.stats.pipelineRuns = 3 := by
  refine ⟨_, ⟨rfl, rfl, rules_respects, fun _ _ _ => trivial, rfl, ?_⟩, rfl, rfl, rfl⟩
  exact Deed.orderly_of_unregistered rfl

end Busy

/-- After a success and two failures, a circuit like the compiled one and the one that failed are
compiled as by a new compiler, in either order. -/
theorem compile_history_free_busy :
    ∃ session : Session Kind target, Arises session ∧
      session.compiler.ledger = .ofPairs [(Reissue.plain, Busy.handle)] ∧
      session.compiler.state.stats.pipelineRuns = 3 ∧
      (∃ (answer otherAnswer : Except (Failure Kind target) Handle)
        (later otherLater : Session Kind target),
        (Calls.within backend 2).compile Reissue.other session = some (answer, later) ∧
          (Calls.within backend 2).compile Reissue.plain Busy.session =
            some (otherAnswer, otherLater) ∧
          answer.map (·.content) = otherAnswer.map (·.content) ∧
          otherAnswer = .ok Busy.handle) ∧
      ∃ answers otherAnswers later otherLater,
        session.perform backend 2 (compileEach [Reissue.other, Reissue.nesting]) =
            some (.ok answers, later) ∧
          Busy.session.perform backend 2 (compileEach [Reissue.nesting, Reissue.other]) =
            some (.ok otherAnswers, otherLater) ∧
          (programsOf answers).Perm (programsOf otherAnswers) := by
  obtain ⟨session, runs, sameSetup, ledger, pipelineRuns⟩ := Busy.runs_history
  have arises : Arises session := ⟨Unit, 2, Busy.history, Busy.session, .ok (), runs⟩
  have fresh : Arises Busy.session := arises_of_empty rfl rfl Busy.rules_respects
  have flags : session.compiler.flags = Busy.flags := (congrArg Setup.flags sameSetup).symm
  have rules : session.compiler.rules = Busy.rules := (congrArg Setup.rules sameSetup).symm
  have follows : session.compiler.rules.FollowsUnder session.compiler.flags
      (Busy.results Busy.flags) := by
    rw [flags, rules]
    exact Busy.rules_followsUnder Busy.flags
  have missing (circuit : Circuit Kind) (different : (circuit == Reissue.plain) = false) :
      session.compiler.ledger.valueOf? circuit = none := by
    rw [ledger]
    change List.lookup circuit [(Reissue.plain, Busy.handle)] = none
    rw [List.lookup_cons, different]
    rfl
  obtain ⟨alike, reordered⟩ := compile_history_free arises fresh sameSetup follows 0 0
  obtain ⟨answer, otherAnswer, later, otherLater, compiled, otherCompiled, same⟩ :=
    alike Reissue.other Reissue.plain rfl (missing _ rfl) rfl
  have first : otherAnswer = .ok Busy.handle := by
    cases otherCompiled
    rfl
  refine ⟨session, arises, ledger, pipelineRuns,
    ⟨answer, otherAnswer, later, otherLater, compiled, otherCompiled, same, first⟩, ?_⟩
  refine reordered _ _ (.swap _ _ _) ⟨by decide, ?_⟩ ⟨by decide, ?_⟩
  · exact List.forall_mem_cons.mpr ⟨missing _ rfl, List.forall_mem_cons.mpr
      ⟨missing _ rfl, List.forall_mem_nil _⟩⟩
  · exact fun circuit _ => rfl

end Circuitry.Reference
