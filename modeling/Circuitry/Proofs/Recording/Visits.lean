import Circuitry.Proofs.Compiler.Dispatch
import Circuitry.Recording

/-!
# The visits of the recording pipeline

The recording pipeline keeps one list of tags through all layers and graphs.  As long as no switch
makes it stop, it therefore makes the visits of the circuit one after the other and records what the
rules give.
-/

namespace Circuitry.Recording

variable {κ : Type} [Vocabulary κ]

/-- Records visits in turn. -/
def recordVisits : List String → List (Visit κ) → Script κ (target κ) (List String)
  | tags, [] => pure tags
  | tags, visit :: rest => do
    let tag ← recordNode visit.category visit.node
    recordVisits (tags ++ [tag]) rest

theorem recordVisits_append (visits later : List (Visit κ)) :
    ∀ tags, recordVisits tags (visits ++ later) = (do
      let more ← recordVisits tags visits
      recordVisits more later) := by
  induction visits with
  | nil => exact fun tags => rfl
  | cons visit rest inductionHypothesis =>
      intro tags
      rw [List.cons_append, recordVisits, recordVisits, bind_assoc]
      simp only [inductionHypothesis]

theorem recordParameterNode_eq (tags : List String) (entry : ParameterEntry κ) :
    recordParameterNode tags entry = recordVisits tags entry.visits := by
  unfold recordParameterNode ParameterEntry.visits
  cases entry.initializer with
  | none => rfl
  | some initializer =>
      simp only [Option.toList_some, List.map_cons, List.map_nil, List.singleton_append,
        recordVisits, List.append_assoc]

theorem recordParameterNodes_eq (schedule : List (Nat × ParameterEntry κ)) :
    ∀ tags, recordParameterNodes tags schedule =
      recordVisits tags (schedule.flatMap fun item => item.2.visits) := by
  induction schedule with
  | nil => exact fun tags => rfl
  | cons item rest inductionHypothesis =>
      intro tags
      rw [List.flatMap_cons, recordVisits_append, recordParameterNodes, recordParameterNode_eq]
      simp only [inductionHypothesis]

theorem recordParameters_eq (pairs : List (String × ParameterGraph κ)) :
    ∀ tags, recordParameters tags pairs =
      recordVisits tags (pairs.flatMap fun pair => pair.2.visits) := by
  induction pairs with
  | nil => exact fun tags => rfl
  | cons pair rest inductionHypothesis =>
      intro tags
      rw [List.flatMap_cons, recordVisits_append, recordParameters, recordParameterNodes_eq]
      simp only [inductionHypothesis]
      rfl

/-- Without a limit the layers are recorded visit by visit. -/
theorem recordLayers_eq (schedule : List (Nat × LayerEntry κ)) :
    ∀ tags, recordLayers none tags schedule =
      recordVisits tags (schedule.flatMap fun item => item.2.visits) := by
  induction schedule with
  | nil => exact fun tags => rfl
  | cons item rest inductionHypothesis =>
      intro tags
      rw [List.flatMap_cons, LayerEntry.visits, recordVisits_append, recordVisits_append,
        recordLayers, recordParameters_eq]
      simp only [inductionHypothesis, recordVisits, bind_assoc, reduceCtorEq, if_false, pure_bind]

theorem makes_recordVisits (visits : List (Visit κ)) :
    ∀ tags, (recordVisits tags visits).Makes visits := by
  induction visits with
  | nil => exact fun tags => .done tags
  | cons visit rest inductionHypothesis =>
      intro tags
      exact (Script.Makes.compileNode visit.category visit.node).bind fun tag =>
        inductionHypothesis _

/-- In between the visits nothing is changed. -/
theorem respects_recordVisits {allowed : ((target κ).State → (target κ).State) → Prop}
    (visits : List (Visit κ)) : ∀ tags, (recordVisits tags visits).Respects allowed := by
  induction visits with
  | nil => exact fun tags => trivial
  | cons visit rest inductionHypothesis =>
      intro tags answer
      cases answer with
      | error error => trivial
      | ok tag => exact inductionHypothesis _

/-- The rules give tags in visits that are made one after the other. -/
inductive Tagged (depth : Nat) : Session κ (target κ) → List (Visit κ) → List String →
    Session κ (target κ) → Prop
  | nil (session : Session κ (target κ)) : Tagged depth session [] [] session
  | cons {session middle ended : Session κ (target κ)} {visit : Visit κ} {tag : String}
      {visits : List (Visit κ)} {tags : List String} :
      (Calls.within backend depth).visit visit session = some (.ok tag, middle) →
      Tagged depth middle visits tags ended →
      Tagged depth session (visit :: visits) (tag :: tags) ended

theorem tagged_of_recordVisits {depth : Nat} {final : List String} {ended : Session κ (target κ)}
    (visits : List (Visit κ)) :
    ∀ {tags : List String} {session : Session κ (target κ)},
      (recordVisits tags visits).runWith (.within backend depth) session =
          some (.ok final, ended) →
        ∃ more, final = tags ++ more ∧ Tagged depth session visits more ended := by
  induction visits with
  | nil =>
      intro tags session ran
      cases ran
      exact ⟨[], (List.append_nil _).symm, .nil _⟩
  | cons visit rest inductionHypothesis =>
      intro tags session ran
      obtain ⟨tag, middle, tagged, others⟩ := Script.runWith_bind_ok ran
      have applied := (Script.runWith_compileNode _ visit.category visit.node session).symm.trans
        tagged
      obtain ⟨more, rfl, later⟩ := inductionHypothesis others
      exact ⟨tag :: more, by rw [List.append_assoc]; rfl, .cons applied later⟩

/-- Neither a failure nor a registration is switched on. -/
structure Switches.Off (switches : Switches κ) : Prop where
  failAfterLayers : switches.failAfterLayers = none
  selfRegister : switches.selfRegister = false
  failAfterRegister : switches.failAfterRegister = false
  registerDecoy : switches.registerDecoy = false
  sideCircuit : switches.sideCircuit = none

def State.Off (state : State κ) : Prop :=
  state.switches.Off

/-- Counts a run of the pipeline. -/
def State.countRun (state : State κ) : State κ :=
  { state with pipelineRuns := state.pipelineRuns + 1 }

/-- Takes the next number for a tape. -/
def State.takeNumber (state : State κ) : State κ :=
  { state with lastNumber := state.lastNumber + 1 }

/-- What the pipeline does with the tags of the circuit. -/
def finishTape (circuit : Circuit κ) (tags : List String) : Script κ (target κ) Tape := do
  registerDecoy circuit
  let result ← newTape tags
  registerSide result
  registerSelf circuit result
  failAtEnd
  return result

theorem pipeline_eq (circuit : Circuit κ) :
    pipeline circuit =
      .updating State.countRun (.viewing fun seen =>
        (recordLayers seen.state.switches.failAfterLayers [] (circuit.schedule true)).bind
          (finishTape circuit)) := rfl

theorem content_of_finishTape {calls : Calls κ (target κ)} {circuit : Circuit κ}
    {tags : List String} {session ended : Session κ (target κ)} {tape : Tape}
    (ran : (finishTape circuit tags).runWith calls session = some (.ok tape, ended)) :
    tape.content = tags := by
  obtain ⟨_, _, -, afterDecoy⟩ := Script.runWith_bind_ok ran
  obtain ⟨made, _, taken, afterTape⟩ := Script.runWith_bind_ok afterDecoy
  obtain ⟨_, _, -, afterSide⟩ := Script.runWith_bind_ok afterTape
  obtain ⟨_, _, -, afterSelf⟩ := Script.runWith_bind_ok afterSide
  obtain ⟨_, _, -, atEnd⟩ := Script.runWith_bind_ok afterSelf
  cases taken
  cases atEnd
  rfl

section Off

variable {session : Session κ (target κ)} {calls : Calls κ (target κ)}

theorem runWith_currentState {α : Type} (next : State κ → Script κ (target κ) α) :
    (currentState >>= next).runWith calls session =
      (next session.compiler.state).runWith calls session := rfl

theorem registerDecoy_of_off (off : session.compiler.state.switches.Off) (circuit : Circuit κ) :
    (registerDecoy circuit).runWith calls session = some (.ok (), session) := by
  unfold registerDecoy
  rw [runWith_currentState, off.registerDecoy]
  rfl

theorem registerSide_of_off (off : session.compiler.state.switches.Off) (result : Tape) :
    (registerSide result).runWith calls session = some (.ok (), session) := by
  unfold registerSide
  rw [runWith_currentState, off.sideCircuit]
  rfl

theorem registerSelf_of_off (off : session.compiler.state.switches.Off) (circuit : Circuit κ)
    (result : Tape) :
    (registerSelf circuit result).runWith calls session = some (.ok (), session) := by
  unfold registerSelf
  rw [runWith_currentState, off.selfRegister]
  rfl

theorem failAtEnd_of_off (off : session.compiler.state.switches.Off) :
    (failAtEnd : Script κ (target κ) Unit).runWith calls session = some (.ok (), session) := by
  unfold failAtEnd
  rw [runWith_currentState, off.failAfterRegister]
  rfl

/-- The tape that a compiler makes of tags. -/
def nextTape (compiler : Compiler κ (target κ)) (tags : List String) : Tape :=
  ⟨compiler.state.origin, compiler.state.lastNumber + 1, tags⟩

/-- With everything switched off the tags get the next number. -/
theorem finishTape_of_off (off : session.compiler.state.switches.Off) (circuit : Circuit κ)
    (tags : List String) :
    (finishTape circuit tags).runWith calls session =
      some (.ok (nextTape session.compiler tags), session.update State.takeNumber) := by
  have made : (newTape tags).runWith calls session =
      some (.ok (nextTape session.compiler tags), session.update State.takeNumber) := rfl
  have stillOff : (session.update State.takeNumber).compiler.state.switches.Off := off
  unfold finishTape
  rw [Script.runWith_bind_of_ok _ (registerDecoy_of_off off circuit),
    Script.runWith_bind_of_ok _ made, Script.runWith_bind_of_ok _ (registerSide_of_off stillOff _),
    Script.runWith_bind_of_ok _ (registerSelf_of_off stillOff circuit _),
    Script.runWith_bind_of_ok _ (failAtEnd_of_off stillOff)]
  rfl

end Off

end Circuitry.Recording
