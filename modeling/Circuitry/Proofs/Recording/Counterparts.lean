import Circuitry.Proofs.Recording.Visits
import Circuitry.Proofs.Reference.Visits
import Circuitry.Proofs.Reference.WellFormed

/-!
# Counterparts

A reference compiler that leaves unused layers out and a recording compiler with everything switched
off are counterparts when they have rules for the same kinds, which succeed at the same nodes.
Their pipelines are built differently, one on positions and nested results and the other on one list
of tags, but they dispatch the same nodes in the same order, and end alike.
-/

namespace Circuitry

variable {κ : Type} [Vocabulary κ] {succeeds : Visit κ → Bool} {circuit : Circuit κ}

namespace Reference

/-- What the pipeline does with the program: it takes the next number for the handle. -/
def finishHandle (program : Program) : Script κ target Handle := do
  changeState State.takeNumber
  let state ← currentState
  return ⟨state.origin, state.lastNumber, program⟩

theorem pipeline_dispatches (session : Session κ target) {options : Options}
    (read : Options.ofFlags session.compiler.flags = .ok options) (linked : circuit.Linked)
    (settles : session.compiler.Settles (fun _ => True) succeeds) (depth : Nat) :
    ∃ outcome ended,
      Moment.Dispatches (⟨depth + 1, pipeline circuit, session⟩ : Moment (backend : Backend κ))
        session.compiler (fun _ => True) succeeds (circuit.visits options.prune) outcome ended := by
  have makes := makes_assembleProgram linked options
  have counted : session.compiler.Drifts (fun _ => True)
      (session.update State.countRun).compiler := ⟨_, trivial, rfl⟩
  have finishes : ∀ program (later : Session κ target),
      session.compiler.Drifts (fun _ => True) later.compiler →
        ∃ handle ended,
          (finishHandle program).runWith (.within backend (depth + 1)) later =
              some (.ok handle, ended) ∧
            session.compiler.Drifts (fun _ => True) ended.compiler ∧
            ended.dispatches = later.dispatches :=
    fun program later drifts => ⟨_, _, rfl, drifts.update fun _ _ => trivial, rfl⟩
  obtain ⟨outcome, ended, dispatches⟩ := Script.Makes.dispatches backend settles depth makes
    finishHandle finishes (makes.respects fun _ _ _ => trivial) counted
  refine ⟨outcome, ended, ?_⟩
  rw [pipeline_eq]
  refine .of_request rfl rfl (.of_request ?_ rfl dispatches)
  change some (assembleRead circuit (Options.ofFlags session.compiler.flags), _) = _
  rw [read]
  rfl

end Reference

namespace Recording

theorem pipeline_dispatches (session : Session κ (target κ))
    (off : session.compiler.state.switches.Off)
    (settles : session.compiler.Settles State.Off succeeds)
    (circuit : Circuit κ) (depth : Nat) :
    ∃ outcome ended,
      Moment.Dispatches (⟨depth + 1, pipeline circuit, session⟩ : Moment (backend : Backend κ))
        session.compiler State.Off succeeds (circuit.visits true) outcome ended := by
  have counted : session.compiler.Drifts State.Off (session.update State.countRun).compiler :=
    ⟨State.countRun session.compiler.state, off, rfl⟩
  have finishes : ∀ tags (later : Session κ (target κ)),
      session.compiler.Drifts State.Off later.compiler →
        ∃ result ended,
          (finishTape circuit tags).runWith (.within backend (depth + 1)) later =
              some (.ok result, ended) ∧
            session.compiler.Drifts State.Off ended.compiler ∧
            ended.dispatches = later.dispatches := by
    intro tags later drifts
    have laterOff : later.compiler.state.switches.Off := by
      obtain ⟨state, stillOff, same⟩ := drifts
      rw [same]
      exact stillOff
    exact ⟨_, _, finishTape_of_off laterOff circuit tags, drifts.update fun _ kept => kept, rfl⟩
  obtain ⟨outcome, ended, dispatches⟩ := Script.Makes.dispatches backend settles depth
    (makes_recordVisits (circuit.visits true) []) (finishTape circuit) finishes
    (respects_recordVisits _ _) counted
  refine ⟨outcome, ended, ?_⟩
  rw [pipeline_eq]
  refine .of_request rfl rfl (.of_request ?_ rfl dispatches)
  change some ((recordLayers session.compiler.state.switches.failAfterLayers []
    (circuit.schedule true)).bind (finishTape circuit), _) = _
  rw [off.failAfterLayers, recordLayers_eq]
  rfl

/-- The content of a tape is what the rules have given in the visits of the circuit. -/
theorem tagged_of_pipeline (session : Session κ (target κ)) {ended : Session κ (target κ)}
    (off : session.compiler.state.switches.Off) {depth : Nat} {tape : Tape}
    (ran : session.perform backend depth (pipeline circuit) = some (.ok tape, ended)) :
    ∃ last,
      Tagged depth (session.update State.countRun) (circuit.visits true) tape.content last := by
  have recorded : ((recordLayers session.compiler.state.switches.failAfterLayers []
      (circuit.schedule true)).bind (finishTape circuit)).runWith (.within backend depth)
        (session.update State.countRun) = some (.ok tape, ended) := ran
  rw [off.failAfterLayers, recordLayers_eq] at recorded
  obtain ⟨tags, last, visited, finished⟩ := Script.runWith_bind_ok recorded
  obtain ⟨more, rfl, tagged⟩ := tagged_of_recordVisits _ visited
  rw [content_of_finishTape finished]
  exact ⟨last, tagged⟩

end Recording

/-- A reference compiler that leaves unused layers out, and a recording compiler with everything
switched off, before their first compilations.  They have rules for the same kinds, which do not
call back and succeed at the same nodes. -/
structure Counterparts (reference : Session κ Reference.target)
    (recording : Session κ (Recording.target κ)) (succeeds : Visit κ → Bool) : Prop where
  options : ∃ options, Reference.Options.ofFlags reference.compiler.flags = .ok options ∧
    options.prune = true
  switches : recording.compiler.state.switches.Off
  referenceFresh : reference.compiler.ledger = .empty
  recordingFresh : recording.compiler.ledger = .empty
  sameKinds : ∀ category kind,
    (recording.compiler.rules.registry category).contains kind =
      (reference.compiler.rules.registry category).contains kind
  referenceSettles : reference.compiler.Settles (fun _ => True) succeeds
  recordingSettles : recording.compiler.Settles Recording.State.Off succeeds

/-- Counterparts dispatch alike.  Both compile a built circuit with an answer and report the same
dispatches: the visits of the circuit, which stand in topological order with the parameter graphs of
each layer before it and each initializer before its parameter, up to the first that fails.  If none
fails, both succeed, and the tape holds what the rules gave, visit by visit; else both fail, and
their pipelines end with the same visit. -/
theorem dispatch_agrees (built : circuit.Built) {reference : Session κ Reference.target}
    {recording : Session κ (Recording.target κ)}
    (counterparts : Counterparts reference recording succeeds) (depth recordingDepth : Nat) :
    let visits := circuit.visits true
    let trail := (dispatched reference.compiler.hasRule succeeds visits).map Visit.event
    ∃ result tape referenceEnded recordingEnded,
      (Calls.within Reference.backend (depth + 2)).compile circuit reference =
          some (result, referenceEnded) ∧
        (Calls.within Recording.backend (recordingDepth + 2)).compile circuit recording =
          some (tape, recordingEnded) ∧
        referenceEnded.dispatches = reference.dispatches ++ trail ∧
        recordingEnded.dispatches = recording.dispatches ++ trail ∧
        match culprit? reference.compiler.hasRule succeeds visits with
        | none =>
          ∃ handle recorded last, result = .ok handle ∧ tape = .ok recorded ∧
            Recording.Tagged (recordingDepth + 1)
              ((recording.openRun Recording.backend circuit).update Recording.State.countRun)
              visits recorded.content last
        | some culprit =>
          ∃ error cause referenceLast recordingLast, result = .error error ∧ tape = .error cause ∧
            Moment.EndsWith
              (⟨depth + 1, Reference.pipeline circuit,
                reference.openRun Reference.backend circuit⟩ : Moment Reference.backend)
              culprit error referenceLast ∧
            Moment.EndsWith
              (⟨recordingDepth + 1, Recording.pipeline circuit,
                recording.openRun Recording.backend circuit⟩ : Moment Recording.backend)
              culprit cause recordingLast := by
  intro visits trail
  obtain ⟨options, read, prunes⟩ := counterparts.options
  have sameRules : recording.compiler.hasRule = reference.compiler.hasRule :=
    funext fun visit => counterparts.sameKinds visit.category visit.node.kind
  obtain ⟨result, referenceLast, referenceRun⟩ := Reference.pipeline_dispatches
    (reference.openRun Reference.backend circuit) read built.linked
    counterparts.referenceSettles depth
  obtain ⟨tape, recordingLast, recordingRun⟩ := Recording.pipeline_dispatches
    (recording.openRun Recording.backend circuit) counterparts.switches
    counterparts.recordingSettles circuit recordingDepth
  rw [prunes] at referenceRun
  obtain ⟨referenceEnded, referenceCompiled, referenceTrail⟩ :=
    referenceRun.compile counterparts.referenceFresh
  obtain ⟨recordingEnded, recordingCompiled, recordingTrail⟩ :=
    recordingRun.compile counterparts.recordingFresh
  have sameTrail :
      (dispatched recording.compiler.hasRule succeeds visits).map Visit.event = trail :=
    congrArg (fun hasRule => (dispatched hasRule succeeds visits).map Visit.event) sameRules
  have sameCulprit : culprit? recording.compiler.hasRule succeeds visits =
      culprit? reference.compiler.hasRule succeeds visits :=
    congrArg (fun hasRule => culprit? hasRule succeeds visits) sameRules
  refine ⟨result, tape, referenceEnded, recordingEnded, referenceCompiled, recordingCompiled,
    referenceTrail, recordingTrail.trans (congrArg _ sameTrail), ?_⟩
  cases first : culprit? reference.compiler.hasRule succeeds visits with
  | none =>
      obtain ⟨handle, rfl⟩ := referenceRun.exists_value first
      obtain ⟨recorded, rfl⟩ := recordingRun.exists_value (sameCulprit.trans first)
      obtain ⟨last, tagged⟩ := Recording.tagged_of_pipeline
        (recording.openRun Recording.backend circuit) counterparts.switches recordingRun.ran
      exact ⟨handle, recorded, last, rfl, rfl, tagged⟩
  | some culprit =>
      obtain ⟨error, rfl, referenceEnds⟩ := referenceRun.endsWith first
      obtain ⟨cause, rfl, recordingEnds⟩ := recordingRun.endsWith (sameCulprit.trans first)
      exact ⟨error, cause, referenceLast, recordingLast, rfl, rfl, referenceEnds, recordingEnds⟩

theorem Registry.contains_ofResults {target : Target} (results : Results κ target) (kinds : List κ)
    (category : Category) (kind : κ) :
    (Registry.ofResults results kinds category).contains kind = kinds.contains kind := by
  unfold Registry.ofResults Registry.contains Registry.rule?
  induction kinds with
  | nil => rfl
  | cons first rest inductionHypothesis =>
      rw [List.map_cons, Registry.lookup_cons_ite, List.contains_cons]
      by_cases same : kind = first
      · simp [same]
      · rw [if_neg same, inductionHypothesis, beq_false_of_ne same, Bool.false_or]

namespace Tagging

open Reference.Sharing (results kinds)

/-- Nodes with a result are tagged with their category. -/
def tags : Results Kind (Recording.target Kind) := fun category node =>
  match results category node with
  | .ok _ => .ok category.label
  | .error _ => .error (.pipeline "no tag")

def hasResult (visit : Visit Kind) : Bool :=
  (results visit.category visit.node).isOk

/-- All kinds but those of parameters. -/
def fewKinds (category : Category) : List Kind :=
  if category = .parameter then [] else kinds category

def reference (kinds : Category → List Kind) : Session Kind Reference.target where
  compiler := ⟨({} : Reference.State), .ofResults results kinds, .empty, .empty⟩
  events := #[]
  supply := {}
  invocations := []

def recording (kinds : Category → List Kind) : Session Kind (Recording.target Kind) where
  compiler := ⟨({} : Recording.State Kind), .ofResults tags kinds, .empty, .empty⟩
  events := #[]
  supply := {}
  invocations := []

theorem counterparts (kinds : Category → List Kind) :
    Counterparts (reference kinds) (recording kinds) hasResult where
  options := ⟨⟨.lseSum, true⟩, rfl, rfl⟩
  switches := ⟨rfl, rfl, rfl, rfl, rfl⟩
  referenceFresh := rfl
  recordingFresh := rfl
  sameKinds category kind := by
    cases category <;>
      exact (Registry.contains_ofResults _ _ _ _).trans (Registry.contains_ofResults _ _ _ _).symm
  referenceSettles := (Rulebook.ofResults_follows results kinds).settles _
  recordingSettles := by
    have sameOutcome : (fun visit : Visit Kind => (tags visit.category visit.node).isOk) =
        hasResult := by
      funext visit
      unfold tags hasResult
      cases results visit.category visit.node <;> rfl
    exact sameOutcome ▸ (Rulebook.ofResults_follows tags kinds).settles _

end Tagging

/-- With all rules both succeed and the tape has a tag for each dispatch; without those for
parameters both fail at the first one, after its initializer. -/
theorem dispatch_agrees_sharing :
    Reference.Sharing.circuit.Built ∧
      Counterparts (Tagging.reference Reference.Sharing.kinds)
        (Tagging.recording Reference.Sharing.kinds) Tagging.hasResult ∧
      Counterparts (Tagging.reference Tagging.fewKinds) (Tagging.recording Tagging.fewKinds)
        Tagging.hasResult ∧
      (∃ handle tape referenceEnded recordingEnded,
        (Calls.within Reference.backend 2).compile Reference.Sharing.circuit
            (Tagging.reference Reference.Sharing.kinds) = some (.ok handle, referenceEnded) ∧
          (Calls.within Recording.backend 2).compile Reference.Sharing.circuit
            (Tagging.recording Reference.Sharing.kinds) = some (.ok tape, recordingEnded) ∧
          referenceEnded.dispatches = recordingEnded.dispatches ∧
          tape.content =
            ["layer", "initializer", "parameter", "parameter", "layer", "initializer", "parameter",
              "parameter", "layer"]) ∧
      ∃ error cause referenceEnded recordingEnded,
        (Calls.within Reference.backend 2).compile Reference.Sharing.circuit
            (Tagging.reference Tagging.fewKinds) = some (.error error, referenceEnded) ∧
          (Calls.within Recording.backend 2).compile Reference.Sharing.circuit
            (Tagging.recording Tagging.fewKinds) = some (.error cause, recordingEnded) ∧
          referenceEnded.dispatches =
            [.compiling .layer .categoricalLayer, .compiling .initializer .constantInitializer] ∧
          recordingEnded.dispatches = referenceEnded.dispatches := by
  have all := Tagging.counterparts Reference.Sharing.kinds
  have few := Tagging.counterparts Tagging.fewKinds
  have built := Reference.Sharing.built_circuit
  refine ⟨built, all, few, ?_, ?_⟩
  · obtain ⟨result, tape, referenceEnded, recordingEnded, referenceCompiled, recordingCompiled,
      referenceTrail, recordingTrail, ends⟩ := dispatch_agrees built all 0 0
    obtain ⟨handle, recorded, last, rfl, rfl, tagged⟩ := ends
    refine ⟨handle, recorded, referenceEnded, recordingEnded, referenceCompiled,
      recordingCompiled, referenceTrail.trans recordingTrail.symm, ?_⟩
    obtain ⟨ended, computed⟩ : ∃ ended,
        (Calls.within Recording.backend 2).compile Reference.Sharing.circuit
            (Tagging.recording Reference.Sharing.kinds) =
          some (.ok ⟨0, 1, ["layer", "initializer", "parameter", "parameter", "layer",
            "initializer", "parameter", "parameter", "layer"]⟩, ended) := ⟨_, rfl⟩
    cases recordingCompiled.symm.trans computed
    rfl
  · obtain ⟨result, tape, referenceEnded, recordingEnded, referenceCompiled, recordingCompiled,
      referenceTrail, recordingTrail, ends⟩ := dispatch_agrees built few 0 0
    obtain ⟨error, cause, -, -, rfl, rfl, -, -⟩ := ends
    exact ⟨error, cause, referenceEnded, recordingEnded, referenceCompiled, recordingCompiled,
      referenceTrail.trans rfl, recordingTrail.trans referenceTrail.symm⟩

end Circuitry
