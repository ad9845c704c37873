import Circuitry.Proofs.Compiler.Assembly
import Circuitry.Proofs.Compiler.Outcome
import Circuitry.Proofs.Reference.Visits

/-!
# What the reference pipeline asks for

Whatever circuit it is given, the pipeline reads its options, assembles a program, and takes a
number for the handle.  Assembling leaves the numbers alone, and its own errors are in the words of
the pipeline.  So an error that finds a side of the ledger taken comes from a rule.
-/

namespace Circuitry.Reference

variable {κ : Type} [Vocabulary κ] {α : Type}

/-- The change leaves the numbering of the handles alone. -/
def State.Steady (change : State → State) : Prop :=
  ∀ state, (change state).lastNumber = state.lastNumber ∧ (change state).origin = state.origin

/-- The error is in the words of the pipeline. -/
def InOwnWords (error : Failure κ target) : Prop :=
  ∃ message, error = .pipeline message

/-- The script assembles a part of a program. -/
abbrev Assembles (script : Script κ target α) : Prop :=
  script.Assembles InOwnWords State.Steady

omit [Vocabulary κ] in
theorem inOwnWords_of_position {link : Link} {placed : List Nat} {index : Nat}
    {error : Failure κ target} (failed : position link placed index = .error error) :
    InOwnWords error := by
  unfold position at failed
  split at failed
  · contradiction
  · cases failed
    exact ⟨_, rfl⟩

omit [Vocabulary κ] in
theorem inOwnWords_of_positions {link : Link} {placed indices : List Nat}
    {error : Failure κ target} (failed : positions link placed indices = .error error) :
    InOwnWords error := by
  induction indices with
  | nil => cases failed
  | cons index rest inductionHypothesis =>
      unfold positions at failed
      split at failed
      · next cause first =>
          cases failed
          exact inOwnWords_of_position first
      · split at failed
        · next cause others =>
            cases failed
            exact inductionHypothesis others
        · contradiction

theorem assembles_positions (link : Link) (placed indices : List Nat) :
    Assembles (Script.ofExcept (positions link placed indices) : Script κ target (List Nat)) :=
  .ofExcept fun _ => inOwnWords_of_positions

theorem assembles_applyCounted (category : Category) (node : Node κ) :
    Assembles (applyCounted category node) :=
  (Script.Assembles.compileNode category node).bind fun value =>
    .updating (fun _ => ⟨rfl, rfl⟩) (.done value)

theorem assembles_assembleInitializer (node : Option (Node κ)) :
    Assembles (assembleInitializer node) := by
  cases node with
  | none => exact .done none
  | some node =>
      exact (assembles_applyCounted .initializer node).bind fun value => .done (some value)

theorem assembles_assembleNodes (schedule : List (Nat × ParameterEntry κ)) :
    ∀ placed, Assembles (assembleNodes placed schedule) := by
  induction schedule with
  | nil => exact fun _ => .done []
  | cons item rest inductionHypothesis =>
      intro placed
      refine (assembles_positions .parameterInput placed item.2.inputs).bind fun inputs => ?_
      refine (assembles_assembleInitializer item.2.initializer).bind fun initializer => ?_
      refine (assembles_applyCounted .parameter item.2.node).bind fun op => ?_
      exact (inductionHypothesis (placed ++ [item.1])).bind fun later => .done _

theorem assembles_assembleParameter (graph : ParameterGraph κ) :
    Assembles (assembleParameter graph) := by
  refine (assembles_assembleNodes graph.schedule []).bind fun nodes => ?_
  exact (Script.Assembles.ofExcept fun _ => inOwnWords_of_position).bind fun output => .done _

theorem assembles_assembleParameters (pairs : List (String × ParameterGraph κ)) :
    ∀ compiled, Assembles (assembleParameters compiled pairs) := by
  induction pairs with
  | nil => exact fun compiled => .done compiled
  | cons pair rest inductionHypothesis =>
      intro compiled
      exact (assembles_assembleParameter pair.2).bind fun parameter => inductionHypothesis _

theorem assembles_assembleLayers (schedule : List (Nat × LayerEntry κ)) :
    ∀ placed, Assembles (assembleLayers placed schedule) := by
  induction schedule with
  | nil => exact fun _ => .done []
  | cons item rest inductionHypothesis =>
      intro placed
      refine (assembles_positions .layerInput placed item.2.inputs).bind fun inputs => ?_
      refine (assembles_assembleParameters item.2.parameters .empty).bind fun parameters => ?_
      refine (assembles_applyCounted .layer item.2.node).bind fun op => ?_
      exact (inductionHypothesis (placed ++ [item.1])).bind fun later => .done _

theorem assembles_assembleProgram (circuit : Circuit κ) (options : Options) :
    Assembles (assembleProgram circuit options) := by
  refine Script.Assembles.bind (.noting (.done ())) fun _ => ?_
  refine (assembles_assembleLayers (circuit.schedule options.prune) []).bind fun layers => ?_
  exact (assembles_positions .output _ circuit.outputs).bind fun outputs => .done _

/-- The handle that a compiler makes of a program. -/
def nextHandle (compiler : Compiler κ target) (program : Program) : target.Output :=
  (⟨compiler.state.origin, compiler.state.lastNumber + 1, program⟩ : Handle)

/-- A run of the assembly of a handle is one of the assembly of the program; if that succeeds, the
program gets the next number. -/
theorem runWith_assembleHandle (calls : Calls κ target) (circuit : Circuit κ) (options : Options)
    (session : Session κ target) :
    (assembleHandle circuit options).runWith calls session =
      match (assembleProgram circuit options).runWith calls session with
      | none => none
      | some (.ok program, middle) =>
        some (.ok (nextHandle middle.compiler program), middle.update State.takeNumber)
      | some (.error error, ended) => some (.error error, ended) := by
  unfold assembleHandle
  rw [Script.bind_eq, Script.runWith_bind]
  rcases (assembleProgram circuit options).runWith calls session with _ | ⟨outcome, later⟩
  · rfl
  · cases outcome <;> rfl

theorem assembleHandle_cases {calls : Calls κ target} {circuit : Circuit κ} {options : Options}
    {session ended : Session κ target} {result : Except (Failure κ target) Handle}
    (ran : (assembleHandle circuit options).runWith calls session = some (result, ended)) :
    (∃ error, result = .error error ∧
      (assembleProgram circuit options).runWith calls session = some (.error error, ended)) ∨
    ∃ program middle, result = .ok (nextHandle middle.compiler program) ∧
      ended = middle.update State.takeNumber ∧
      (assembleProgram circuit options).runWith calls session = some (.ok program, middle) := by
  rw [runWith_assembleHandle] at ran
  split at ran
  · contradiction
  · next program middle assembled =>
      cases ran
      exact Or.inr ⟨program, middle, rfl, rfl, assembled⟩
  · next error middle assembled =>
      cases ran
      exact Or.inl ⟨error, rfl, assembled⟩

theorem pipeline_endsWith {depth : Nat} {circuit : Circuit κ} {session ended : Session κ target}
    {error : Failure κ target} {side : LedgerSide}
    (failed : (pipeline circuit).runWith (.within backend depth) session =
      some (.error error, ended))
    (taken : error.takenSide? = some side) :
    ∃ visit, Moment.EndsWith (⟨depth, pipeline circuit, session⟩ : Moment (backend : Backend κ))
      visit error ended := by
  have foreign : ¬ InOwnWords error := by
    rintro ⟨message, rfl⟩
    cases taken
  cases read : Options.ofFlags session.compiler.flags with
  | error fault =>
      have ran := runWith_pipeline_of_fault (.within backend depth) circuit read
      cases ran.symm.trans failed
      cases taken
  | ok options =>
      have ran := runWith_pipeline_of_options (.within backend depth) circuit read
      obtain ⟨visit, ends⟩ := Script.Assembles.endsWith backend
        (assembles_assembleProgram circuit options) foreign
        (fun program later same => by cases same) (ran.symm.trans failed)
      refine ⟨visit, ?_⟩
      rw [pipeline_eq]
      refine .of_next (.request rfl) (.of_next (.request ?_) ends)
      change some (assembleRead circuit (Options.ofFlags session.compiler.flags), _) = _
      rw [read]
      rfl

end Circuitry.Reference
