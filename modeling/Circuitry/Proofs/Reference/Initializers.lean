import Circuitry.Proofs.Compiler.Compilation
import Circuitry.Proofs.Reference.DefaultRules
import Circuitry.Proofs.Reference.WellFormed

/-!
# The initializers of compiled programs

The default rules refuse a deviation that is at most zero and a range whose lower end is at least
the upper one.  On numbers the opposite of these comparisons is what a valid initializer needs, but
what is no number passes them too.  So in the programs of a compiler with the default rules the
initializers are valid up to that, and not further.
-/

namespace Circuitry

/-- A comparison that is refused holds the other way round, unless a side is no number. -/
theorem Binary64.less_of_not_lessEqual {left right : Binary64}
    (refused : ¬right.lessEqual left = true) :
    left.less right = (!left.isNaN && !right.isNaN) := by
  unfold lessEqual at refused
  unfold less
  cases leftNaN : left.isNaN with
  | true => rfl
  | false =>
      cases rightNaN : right.isNaN with
      | true => rfl
      | false =>
          have smaller : left.place < right.place := by
            simpa [leftNaN, rightNaN] using refused
          simpa using smaller

end Circuitry

namespace Circuitry.Reference

/-- A deviation has to be greater than zero, and the ends of a range have to be in order. -/
def Initializer.valid : Initializer → Bool
  | constant _ => true
  | normal _ deviation => (Binary64.zero false).less deviation
  | uniform low high => low.less high

/-- Whether what is to be compared are numbers. -/
def Initializer.comparable : Initializer → Bool
  | constant _ => true
  | normal _ deviation => !deviation.isNaN
  | uniform low high => !low.isNaN && !high.isNaN

/-- The initializers of the parameter nodes of a program. -/
def Program.initializers (program : Program) : List Initializer :=
  program.layers.flatMap fun layer =>
    layer.parameters.entries.flatMap fun entry => entry.2.nodes.filterMap (·.initializer)

theorem Initializer.valid_of_ofNormal {initializer : NormalInitializer} {value : Initializer}
    (passed : Initializer.ofNormal initializer = .ok value) : value.valid = value.comparable := by
  unfold Initializer.ofNormal at passed
  split at passed
  · contradiction
  · next refused =>
      cases passed
      exact Binary64.less_of_not_lessEqual refused

theorem Initializer.valid_of_ofUniform {initializer : UniformInitializer} {value : Initializer}
    (passed : Initializer.ofUniform initializer = .ok value) : value.valid = value.comparable := by
  unfold Initializer.ofUniform at passed
  split at passed
  · contradiction
  · next refused =>
      cases passed
      exact Binary64.less_of_not_lessEqual refused

theorem valid_of_defaultResults {node : Node Kind} {value : Initializer}
    (result : defaultResults .initializer node = .ok value) : value.valid = value.comparable := by
  obtain ⟨default, member, payload, passed⟩ := exists_check_of_defaultResults result
  simp only [defaultRules, List.mem_cons, List.not_mem_nil, or_false] at member
  rcases member with rfl | rfl | rfl
  · cases passed
    rfl
  · exact Initializer.valid_of_ofNormal passed
  · exact Initializer.valid_of_ofUniform passed

/-- The initializers of the program are valid, as far as they can be compared. -/
def Program.Checked (program : Program) : Prop :=
  ∀ initializer ∈ program.initializers, initializer.valid = initializer.comparable

theorem Program.Translates.node_of_initializer {κ : Type} [Vocabulary κ] {meaning : Meaning κ}
    {circuit : Circuit κ} {options : Options} {program : Program}
    (translates : program.Translates meaning circuit options) {initializer : Initializer}
    (member : initializer ∈ program.initializers) :
    ∃ node, meaning .initializer node initializer := by
  obtain ⟨layer, layerMember, inLayer⟩ := List.mem_flatMap.mp member
  obtain ⟨⟨name, parameter⟩, named, inParameter⟩ := List.mem_flatMap.mp inLayer
  obtain ⟨node, nodeMember, initialized⟩ := List.mem_filterMap.mp inParameter
  obtain ⟨_, -, entry, -, layerTranslates⟩ := item_of_mem translates.layers layerMember
  obtain ⟨graph, -, parameterTranslates⟩ := layerTranslates.graph_of_mem named
  obtain ⟨_, -, source, -, nodeTranslates⟩ := item_of_mem parameterTranslates.nodes nodeMember
  have related := nodeTranslates.initializer
  rw [initialized] at related
  generalize source.initializer = given at related
  cases related with
  | some means => exact ⟨_, means⟩

theorem Program.Translates.checked {circuit : Circuit Kind} {options : Options} {program : Program}
    (translates : program.Translates (resultMeaning defaultResults) circuit options) :
    program.Checked := by
  intro initializer member
  obtain ⟨node, result⟩ := translates.node_of_initializer member
  exact valid_of_defaultResults result

/-- The compiler has begun with exactly the default rules.  Since then it has compiled circuits, has
registered handles that it or another such compiler has returned, and has done what leaves its rules
and its ledger. -/
inductive Standard : Compiler Kind target → Prop
  | new {depth : Nat} {state : State} {policy : DuplicatePolicy} {flags : Flags}
      {session ended : Session Kind target} :
      session.compiler = Compiler.new state policy flags →
      session.perform backend depth addDefaultRules = some (.ok (), ended) →
      Standard ended.compiler
  | filled {compiler : Compiler Kind target} :
      ExactlyDefaults compiler.rules → compiler.ledger = .empty → Standard compiler
  | compile {depth : Nat} {circuit : Circuit Kind} {session ended : Session Kind target}
      {answer : Except (Failure Kind target) Handle} :
      Standard session.compiler → circuit.Built →
      session.perform backend depth (Script.compile circuit) = some (answer, ended) →
      Standard ended.compiler
  | register {depth compileDepth : Nat} {circuit compiled : Circuit Kind} {handle : Handle}
      {session ended origin after : Session Kind target}
      {answer : Except (Failure Kind target) Unit} :
      Standard session.compiler → Standard origin.compiler → compiled.Built →
      origin.perform backend compileDepth (Script.compile compiled) = some (.ok handle, after) →
      session.perform backend depth (Script.register circuit handle) = some (answer, ended) →
      Standard ended.compiler
  | other {compiler later : Compiler Kind target} :
      Standard compiler → compiler.SameTables later → Standard later

/-- The compiler has the default rules, and all programs that it knows are checked. -/
structure Guarded (compiler : Compiler Kind target) : Prop where
  rules : ExactlyDefaults compiler.rules
  known : ∀ held ∈ compiler.ledger.forward, held.2.content.Checked

theorem Guarded.of_empty {compiler : Compiler Kind target}
    (exactly : ExactlyDefaults compiler.rules) (empty : compiler.ledger = .empty) :
    Guarded compiler where
  rules := exactly
  known := by
    intro held member
    rw [empty] at member
    exact absurd member List.not_mem_nil

/-- A compilation keeps the compiler guarded and gives a checked program: one that was known, or
that of the pipeline. -/
theorem Guarded.compile {depth : Nat} {circuit : Circuit Kind} {session ended : Session Kind target}
    {answer : Except (Failure Kind target) Handle} (guarded : Guarded session.compiler)
    (built : circuit.Built)
    (performed : session.perform backend depth (Script.compile circuit) = some (answer, ended)) :
    Guarded ended.compiler ∧ ∀ handle, answer = .ok handle → handle.content.Checked := by
  have follows := guarded.rules.follows
  have compiled : (Calls.within backend depth).compile circuit session = some (answer, ended) :=
    (Session.perform_compile backend depth circuit session).symm.trans performed
  have opened : session.compiler.SameTables (session.openRun backend circuit).compiler := ⟨rfl, rfl⟩
  obtain ⟨⟨sameRules, sameLedger⟩, answered⟩ | ⟨sameRules, registers⟩ :=
    Calls.compile_cases (fun {inner} _ _ ran =>
      pipeline_preserves (follows.preserve backend inner) built.linked opened ran) compiled
  · refine ⟨⟨sameRules ▸ guarded.rules, sameLedger ▸ guarded.known⟩, fun handle given => ?_⟩
    obtain ⟨held, member, -, same⟩ := Ledger.exists_mem_of_lookup (answered handle given)
    exact same ▸ guarded.known held member
  · obtain ⟨inner, output, last, rfl, ran, forward⟩ := registers
    have openedFollows : (session.openRun backend circuit).compiler.rules.Follows defaultResults :=
      follows
    obtain ⟨⟨options, -, translates⟩, -⟩ :=
      (serves_of_follows defaultResults inner).pipeline openedFollows ran
    refine ⟨⟨sameRules ▸ guarded.rules, ?_⟩, fun handle given => ?_⟩
    · rw [forward]
      exact List.forall_mem_cons.mpr ⟨translates.checked, guarded.known⟩
    · cases given
      exact translates.checked

theorem Guarded.register {depth : Nat} {circuit : Circuit Kind} {handle : Handle}
    {session ended : Session Kind target} {answer : Except (Failure Kind target) Unit}
    (guarded : Guarded session.compiler) (checked : handle.content.Checked)
    (performed : session.perform backend depth (Script.register circuit handle) =
      some (answer, ended)) : Guarded ended.compiler := by
  have answered : session.register circuit handle = (answer, ended) := Option.some.inj performed
  unfold Session.register at answered
  split at answered
  · next compiler registered =>
      cases answered
      obtain ⟨sameRules, forward⟩ := Compiler.forward_of_register registered
      refine ⟨sameRules ▸ guarded.rules, ?_⟩
      rw [forward]
      exact List.forall_mem_cons.mpr ⟨checked, guarded.known⟩
  · cases answered
    exact guarded

theorem Standard.guarded {compiler : Compiler Kind target} (standard : Standard compiler) :
    Guarded compiler := by
  induction standard with
  | @new depth state policy flags session ended fresh performed =>
      obtain ⟨compiler, events, supply, invocations⟩ := session
      cases fresh
      obtain ⟨last, ran, same⟩ := runWith_addDefaultRules (.within backend depth) state policy flags
        events supply invocations
      cases performed.symm.trans ran
      rw [same]
      exact .of_empty (exactlyDefaults_defaultRulebook policy) rfl
  | filled exactly empty => exact .of_empty exactly empty
  | compile _ built performed inductionHypothesis =>
      exact (inductionHypothesis.compile built performed).1
  | register _ _ built compiled performed inductionHypothesis originHypothesis =>
      exact inductionHypothesis.register
        ((originHypothesis.compile built compiled).2 _ rfl) performed
  | other _ same inductionHypothesis =>
      exact ⟨same.1 ▸ inductionHypothesis.rules, same.2 ▸ inductionHypothesis.known⟩

/-- What compilers with the default rules make has valid initializers, with one exception: those
with a number to compare that is none. -/
theorem initializers_valid {depth : Nat} {circuit : Circuit Kind}
    {session ended : Session Kind target} {handle : Handle} (standard : Standard session.compiler)
    (built : circuit.Built)
    (performed : session.perform backend depth (Script.compile circuit) =
      some (.ok handle, ended)) :
    ∀ initializer ∈ handle.content.initializers, initializer.valid = initializer.comparable :=
  (standard.guarded.compile built performed).2 handle rfl

namespace Weighted

/-- A tensor that a normal distribution fills. -/
def weight (deviation : Binary64) : ParameterGraph Kind where
  entries :=
    #[⟨⟨.tensorParameter, ⟨[1], true⟩⟩, [],
      some ⟨.normalInitializer, ⟨.zero false, deviation⟩⟩⟩]
  output := 0

def circuit (deviation : Binary64) : Circuit Kind where
  id := ⟨1⟩
  name := none
  layers := #[⟨⟨.sumLayer, ⟨1, 1, 1⟩⟩, [], [("weight", weight deviation)]⟩]
  outputs := [0]

theorem built_weight (deviation : Binary64) : (weight deviation).Built :=
  ⟨⟨(weight deviation).entries⟩, 0, .pushAll (weight deviation).entries.toList .empty rfl, rfl⟩

theorem built_circuit (deviation : Binary64) : (circuit deviation).Built := by
  refine ⟨⟨none, (circuit deviation).layers⟩, {}, ⟨1⟩, [0], ?_, rfl⟩
  exact .pushAll (circuit deviation).layers.toList (.named none)
    (by simp [circuit, built_weight]) rfl

def session : Session Kind target where
  compiler := ⟨({} : State), defaultRulebook .reject, .empty, .empty⟩
  events := #[]
  supply := {}
  invocations := []

theorem standard_session : Standard session.compiler := by
  obtain ⟨ended, ran, same⟩ :=
    runWith_addDefaultRules (.within backend 1) {} .reject .empty #[] {} []
  have standard : Standard ended.compiler := .new rfl ran
  rw [same] at standard
  exact standard

end Weighted

/-- The deviation of one is valid. -/
theorem initializers_valid_weighted :
    Standard Weighted.session.compiler ∧ (Weighted.circuit ⟨0x3ff0000000000000⟩).Built ∧
      ∃ handle ended,
        Weighted.session.perform backend 2
            (Script.compile (Weighted.circuit ⟨0x3ff0000000000000⟩)) = some (.ok handle, ended) ∧
          handle.content.initializers = [.normal (.zero false) ⟨0x3ff0000000000000⟩] ∧
          ∀ initializer ∈ handle.content.initializers, initializer.valid = true := by
  have built := Weighted.built_circuit ⟨0x3ff0000000000000⟩
  obtain ⟨handle, ended, performed, made⟩ : ∃ handle ended,
      Weighted.session.perform backend 2
          (Script.compile (Weighted.circuit ⟨0x3ff0000000000000⟩)) = some (.ok handle, ended) ∧
        handle.content.initializers = [.normal (.zero false) ⟨0x3ff0000000000000⟩] :=
    ⟨_, _, rfl, rfl⟩
  have checked := initializers_valid Weighted.standard_session built performed
  refine ⟨Weighted.standard_session, built, handle, ended, performed, made, ?_⟩
  rw [made] at checked ⊢
  intro initializer member
  rw [checked initializer member, List.mem_singleton.mp member]
  rfl

/-- Not all of the initializers are valid: a deviation that is no number is accepted. -/
theorem not_initializers_valid :
    ¬∀ (depth : Nat) (circuit : Circuit Kind) (session ended : Session Kind target)
        (handle : Handle), Standard session.compiler → circuit.Built →
          session.perform backend depth (Script.compile circuit) = some (.ok handle, ended) →
            ∀ initializer ∈ handle.content.initializers, initializer.valid = true := by
  intro all
  obtain ⟨handle, ended, performed, made⟩ : ∃ handle ended,
      Weighted.session.perform backend 2 (Script.compile (Weighted.circuit .nan)) =
          some (.ok handle, ended) ∧
        handle.content.initializers = [.normal (.zero false) .nan] := ⟨_, _, rfl, rfl⟩
  have valid := all 2 (Weighted.circuit .nan) Weighted.session ended handle
    Weighted.standard_session (Weighted.built_circuit .nan) performed
  rw [made] at valid
  exact absurd (valid _ List.mem_cons_self) (by decide)

end Circuitry.Reference
