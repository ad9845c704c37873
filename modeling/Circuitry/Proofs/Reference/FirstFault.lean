import Circuitry.Proofs.Reference.Independence
import Circuitry.Proofs.Reference.DefaultRules
import Mathlib.Tactic.FinCases

/-!
# The first fault

With the default rules a compilation succeeds or fails by checks on the flags and on the nodes that
are visited.  The checks are listed here in the order in which they are made, and the error is that
of the first one that fails: a fault behind it, or one in a layer that is left out, does not matter.
-/

namespace Circuitry.Reference

/-- The fault, unless the condition holds. -/
def faultUnless (condition : Prop) [Decidable condition] (fault : Fault) : Option Fault :=
  if condition then none else some fault

/-- What is to be found wrong with a node by the default rule of its kind, if there is one in the
category. -/
def standardCheck? : Category → Node Kind → Option (Option Fault)
  | .layer, ⟨.categoricalLayer, layer⟩ =>
    some (faultUnless (1 ≤ layer.categories.toNat) .noCategories)
  | .layer, ⟨.gaussianLayer, _⟩ => some none
  | .layer, ⟨.sumLayer, _⟩ => some none
  | .layer, ⟨.hadamardLayer, _⟩ => some none
  | .layer, ⟨.kroneckerLayer, layer⟩ =>
    some (faultUnless layer.outputUnits?.isSome (.unitsOverflow layer.inputUnits layer.arity))
  | .parameter, ⟨.tensorParameter, _⟩ => some none
  | .parameter, ⟨.constantParameter, _⟩ => some none
  | .parameter, ⟨.softmaxParameter, parameter⟩ =>
    some (faultUnless (parameter.axis.toNat < parameter.shape.length)
      (.axisOutOfRange parameter.axis parameter.shape))
  | .parameter, ⟨.expParameter, _⟩ => some none
  | .initializer, ⟨.constantInitializer, _⟩ => some none
  | .initializer, ⟨.normalInitializer, initializer⟩ =>
    some (faultUnless (¬ initializer.deviation.lessEqual (.zero false))
      (.deviationNotPositive initializer.deviation))
  | .initializer, ⟨.uniformInitializer, initializer⟩ =>
    some (faultUnless (¬ initializer.high.lessEqual initializer.low)
      (.emptyRange initializer.low initializer.high))
  | _, _ => none

/-- The nearest supertype with a default rule of the category. -/
def nearestStandard? (category : Category) (kind : Kind) : Option Kind :=
  (Vocabulary.ancestors kind).find? fun ancestor =>
    (defaultRules category).any fun default => ancestor = default.kind

/-- The error of a visit: the fault of the node, or that its kind has no rule. -/
def visitFault? (visit : Visit Kind) : Option (Failure Kind target) :=
  match standardCheck? visit.category visit.node with
  | some fault? => fault?.map fun fault => .pipeline fault.message
  | none =>
    some (.registry (.missing visit.category visit.node.kind
      (nearestStandard? visit.category visit.node.kind)))

section Checks

theorem errorOf?_ofCategorical (layer : CategoricalLayer) :
    errorOf? (LayerOp.ofCategorical layer) =
      faultUnless (1 ≤ layer.categories.toNat) .noCategories := by
  unfold LayerOp.ofCategorical faultUnless
  by_cases empty : layer.categories = 0
  · simp [empty, errorOf?]
  · have positive : 1 ≤ layer.categories.toNat := by
      have unequal := mt UInt64.toNat_inj.mp empty
      rw [UInt64.toNat_zero] at unequal
      omega
    rw [if_neg empty, if_pos positive]
    rfl

theorem errorOf?_ofKronecker (layer : KroneckerLayer) :
    errorOf? (LayerOp.ofKronecker layer) =
      faultUnless layer.outputUnits?.isSome (.unitsOverflow layer.inputUnits layer.arity) := by
  unfold LayerOp.ofKronecker faultUnless
  cases layer.outputUnits? <;> rfl

theorem errorOf?_ofSoftmax (parameter : SoftmaxParameter) :
    errorOf? (ParameterOp.ofSoftmax parameter) =
      faultUnless (parameter.axis.toNat < parameter.shape.length)
        (.axisOutOfRange parameter.axis parameter.shape) := by
  unfold ParameterOp.ofSoftmax faultUnless
  split <;> rfl

theorem errorOf?_ofNormal (initializer : NormalInitializer) :
    errorOf? (Initializer.ofNormal initializer) =
      faultUnless (¬ initializer.deviation.lessEqual (.zero false))
        (.deviationNotPositive initializer.deviation) := by
  unfold Initializer.ofNormal faultUnless
  cases initializer.deviation.lessEqual (.zero false) <;> rfl

theorem errorOf?_ofUniform (initializer : UniformInitializer) :
    errorOf? (Initializer.ofUniform initializer) =
      faultUnless (¬ initializer.high.lessEqual initializer.low)
        (.emptyRange initializer.low initializer.high) := by
  unfold Initializer.ofUniform faultUnless
  cases initializer.high.lessEqual initializer.low <;> rfl

theorem errorOf?_mapError {ε δ α : Type} (outcome : Except ε α) (change : ε → δ) :
    errorOf? (outcome.mapError change) = (errorOf? outcome).map change := by
  cases outcome <;> rfl

theorem DefaultRule.errorOf?_outcome {category : Category} {default : DefaultRule category}
    {payload : default.kind.Payload} {fault? : Option Fault}
    (checked : errorOf? (default.check payload) = fault?) :
    errorOf? (default.outcome payload) = fault?.map fun fault => .pipeline fault.message := by
  rw [← checked]
  exact errorOf?_mapError _ _

theorem errorOf?_outcome? (category : Category) (node : Node Kind) :
    ((defaultRules category).findSome? fun default => default.outcome? node).map errorOf? =
      (standardCheck? category node).map (·.map fun fault => .pipeline fault.message) := by
  obtain ⟨kind, payload⟩ := node
  cases category with
  | layer =>
      cases kind with
      | categoricalLayer =>
          exact congrArg some (DefaultRule.errorOf?_outcome (errorOf?_ofCategorical payload))
      | kroneckerLayer =>
          exact congrArg some (DefaultRule.errorOf?_outcome (errorOf?_ofKronecker payload))
      | _ => rfl
  | parameter =>
      cases kind with
      | softmaxParameter =>
          exact congrArg some (DefaultRule.errorOf?_outcome (errorOf?_ofSoftmax payload))
      | _ => rfl
  | initializer =>
      cases kind with
      | normalInitializer =>
          exact congrArg some (DefaultRule.errorOf?_outcome (errorOf?_ofNormal payload))
      | uniformInitializer =>
          exact congrArg some (DefaultRule.errorOf?_outcome (errorOf?_ofUniform payload))
      | _ => rfl

end Checks

section Visits

variable {category : Category}

theorem isSome_lookup_rule (defaults : List (DefaultRule category)) (kind : Kind) :
    ((defaults.map fun default => (default.kind, default.rule)).lookup kind).isSome =
      defaults.any fun default => kind = default.kind := by
  induction defaults with
  | nil => rfl
  | cons first rest inductionHypothesis =>
      rw [List.map_cons, Registry.lookup_cons_ite, List.any_cons, ← inductionHypothesis]
      by_cases same : kind = first.kind <;> simp [same]

theorem ExactlyDefaults.contains_eq {book : Rulebook Kind target} (exactly : ExactlyDefaults book)
    (kind : Kind) :
    (book.registry category).contains kind =
      (defaultRules category).any fun default => kind = default.kind := by
  rw [Registry.contains, exactly.rule?, isSome_lookup_rule]

theorem standardCheck?_eq_none {node : Node Kind}
    (unknown : ¬ (defaultRules category).any fun default => node.kind = default.kind) :
    standardCheck? category node = none := by
  have unlisted :
      ((defaultRules category).findSome? fun default => default.outcome? node) = none := by
    refine List.findSome?_eq_none_iff.mpr fun default member => ?_
    have different : node.kind ≠ default.kind := fun same =>
      unknown (List.any_eq_true.mpr ⟨default, member, decide_eq_true same⟩)
    unfold DefaultRule.outcome? Node.payloadAs?
    rw [dif_neg different, Option.map_none]
  have checked := errorOf?_outcome? category node
  rw [unlisted] at checked
  exact Option.map_eq_none_iff.mp checked.symm

theorem ExactlyDefaults.find_of_unknown {book : Rulebook Kind target}
    (exactly : ExactlyDefaults book) {kind : Kind}
    (unknown : ¬ (defaultRules category).any fun default => kind = default.kind) :
    (book.registry category).find kind =
      .error (.missing category kind (nearestStandard? category kind)) := by
  have missing : (book.registry category).rule? kind = none := by
    rw [← exactly.contains_eq, Registry.contains, Option.not_isSome_iff_eq_none] at unknown
    exact unknown
  have held : (fun ancestor => (book.registry category).contains ancestor) = fun ancestor =>
      (defaultRules category).any fun default => ancestor = default.kind :=
    funext fun ancestor => exactly.contains_eq ancestor
  unfold Registry.find nearestStandard?
  rw [missing, exactly.own, held]

end Visits

theorem ExactlyDefaults.visit {session : Session Kind target}
    (exactly : ExactlyDefaults session.compiler.rules) (visit : Visit Kind) (depth : Nat) :
    ∃ answer after, (Calls.within backend (depth + 1)).visit visit session = some (answer, after) ∧
      errorOf? answer = visitFault? visit := by
  obtain ⟨category, node⟩ := visit
  by_cases known : (defaultRules category).any fun default => node.kind = default.kind
  · rw [← exactly.contains_eq, Registry.contains, Option.isSome_iff_exists] at known
    obtain ⟨rule, held⟩ := known
    obtain ⟨after, applied⟩ : ∃ after,
        (Calls.within backend (depth + 1)).visit ⟨category, node⟩ session =
          some (defaultResults category node, after) := by
      have found := (Registry.find_eq_ok_iff _ _ _).mpr held
      exact (exactly.follows.apply_of_found found).imp fun _ => And.left
    refine ⟨_, after, applied, ?_⟩
    rw [exactly.rule?] at held
    obtain ⟨outcome, listed, -⟩ := DefaultRule.yields_of_lookup held
    have checked := errorOf?_outcome? category node
    rw [listed, Option.map_some, eq_comm, Option.map_eq_some_iff] at checked
    obtain ⟨fault?, judged, same⟩ := checked
    unfold visitFault? defaultResults
    rw [listed, judged]
    exact same.symm
  · have unchecked := standardCheck?_eq_none known
    refine ⟨_, session, Calls.apply_of_missing (exactly.find_of_unknown known), ?_⟩
    unfold visitFault?
    rw [unchecked]
    rfl

/-! ## Flags -/

section Flags

variable (flags : Flags)

/-- The flag is absent, or names one of the semirings. -/
def semiringFault? : Option FlagError :=
  match flags.get? "semiring" with
  | none => none
  | some (.text name) =>
    if name ∈ ["sum-product", "lse-sum", "complex-lse-sum"] then none
    else
      some (.rejected "semiring"
        ("unknown semiring `" ++ name ++ "` (expected sum-product, lse-sum or complex-lse-sum)"))
  | some found => some (.wrongType "semiring" .text found)

/-- The flag is absent, or a truth value. -/
def pruneFault? : Option FlagError :=
  match flags.get? "prune_unreachable" with
  | none => none
  | some (.bool _) => none
  | some found => some (.wrongType "prune_unreachable" .bool found)

/-- Whether layers that no output depends on are left out. -/
def pruning : Bool :=
  match flags.get? "prune_unreachable" with
  | some (.bool value) => value
  | _ => true

theorem errorOf?_bind {ε α β : Type} {first : Except ε α} {next : α → Except ε β}
    {later : Option ε} (always : ∀ value, errorOf? (next value) = later) :
    errorOf? (first >>= next) = (errorOf? first).or later := by
  cases first with
  | ok value => exact always value
  | error error => rfl

theorem errorOf?_ofLabel (name : String) :
    errorOf? (Semiring.ofLabel name) =
      if name ∈ ["sum-product", "lse-sum", "complex-lse-sum"] then none
      else
        some (.rejected "semiring"
          ("unknown semiring `" ++ name
            ++ "` (expected sum-product, lse-sum or complex-lse-sum)")) := by
  by_cases known : name ∈ ["sum-product", "lse-sum", "complex-lse-sum"]
  · rw [if_pos known]
    fin_cases known <;> rfl
  · rw [if_neg known]
    simp only [List.mem_cons, List.not_mem_nil, or_false, not_or] at known
    obtain ⟨notSumProduct, notLseSum, notComplex⟩ := known
    unfold Semiring.ofLabel Semiring.label
    rw [if_neg notSumProduct, if_neg notLseSum, if_neg notComplex]
    rfl

theorem errorOf?_semiring :
    errorOf? (flags.textOr Semiring.flagName Semiring.default.label >>= Semiring.ofLabel) =
      semiringFault? flags := by
  unfold Flags.textOr semiringFault? Semiring.flagName
  rcases flags.get? "semiring" with _ | found
  · rfl
  · cases found with
    | text name => exact errorOf?_ofLabel name
    | _ => rfl

theorem errorOf?_prune :
    errorOf? (flags.boolOr Options.pruneFlagName true) = pruneFault? flags := by
  unfold Flags.boolOr pruneFault? Options.pruneFlagName
  rcases flags.get? "prune_unreachable" with _ | found
  · rfl
  · cases found <;> rfl

theorem pruning_of_boolOr {prune : Bool}
    (read : flags.boolOr Options.pruneFlagName true = .ok prune) : prune = pruning flags := by
  revert read
  unfold Flags.boolOr pruning Options.pruneFlagName
  rcases flags.get? "prune_unreachable" with _ | found
  · rintro ⟨⟩
    rfl
  · cases found <;> rintro ⟨⟩
    rfl

/-- The semiring is read first. -/
theorem errorOf?_ofFlags :
    errorOf? (Options.ofFlags flags) = (semiringFault? flags).or (pruneFault? flags) := by
  unfold Options.ofFlags
  rw [← bind_assoc, ← errorOf?_semiring, ← errorOf?_prune]
  refine errorOf?_bind fun semiring => ?_
  cases flags.boolOr Options.pruneFlagName true <;> rfl

theorem prune_of_ofFlags {options : Options} (read : Options.ofFlags flags = .ok options) :
    options.prune = pruning flags := by
  obtain ⟨name, -, afterName⟩ := ok_of_bind_eq_ok read
  obtain ⟨semiring, -, afterSemiring⟩ := ok_of_bind_eq_ok afterName
  obtain ⟨prune, asked, same⟩ := ok_of_bind_eq_ok afterSemiring
  cases same
  exact pruning_of_boolOr flags asked

end Flags

/-! ## Compilations -/

/-- What is checked in a compilation. -/
inductive Check
  | semiring
  | prune
  | visit (visit : Visit Kind)

/-- The error of a check that fails. -/
def Check.fault? (flags : Flags) : Check → Option (Failure Kind target)
  | .semiring => (semiringFault? flags).map .flag
  | .prune => (pruneFault? flags).map .flag
  | .visit made => visitFault? made

/-- The checks of a compilation, in their order. -/
def checks (flags : Flags) (circuit : Circuit Kind) : List Check :=
  .semiring :: .prune :: (circuit.visits (pruning flags)).map .visit

theorem findSome?_checks (flags : Flags) (circuit : Circuit Kind) :
    (checks flags circuit).findSome? (Check.fault? flags) =
      ((errorOf? (Options.ofFlags flags)).map .flag).or
        ((circuit.visits (pruning flags)).findSome? visitFault?) := by
  rw [errorOf?_ofFlags]
  unfold checks
  rw [List.findSome?_cons, List.findSome?_cons, List.findSome?_map]
  unfold Check.fault?
  cases semiringFault? flags <;> cases pruneFault? flags <;> rfl

theorem findSome?_checks_eq_none_iff (flags : Flags) (circuit : Circuit Kind) :
    (checks flags circuit).findSome? (Check.fault? flags) = none ↔
      semiringFault? flags = none ∧ pruneFault? flags = none ∧
        ∀ visit ∈ circuit.visits (pruning flags), visitFault? visit = none := by
  rw [List.findSome?_eq_none_iff]
  simp [checks, Check.fault?]

/-- The pipeline has the error of the first check that fails. -/
theorem errorOf?_pipeline {session : Session Kind target} {circuit : Circuit Kind}
    (exactly : ExactlyDefaults session.compiler.rules) (linked : circuit.Linked) (depth : Nat) :
    ∃ outcome ended,
      (pipeline circuit).runWith (.within backend (depth + 1)) session = some (outcome, ended) ∧
        errorOf? outcome =
          (checks session.compiler.flags circuit).findSome?
            (Check.fault? session.compiler.flags) := by
  rw [findSome?_checks]
  cases read : Options.ofFlags session.compiler.flags with
  | error fault =>
      exact ⟨_, _, runWith_pipeline_of_fault _ circuit read, rfl⟩
  | ok options =>
      have preserve := exactly.follows.preserve backend (depth + 1)
      have counted : session.compiler.SameTables (session.update State.countRun).compiler :=
        ⟨rfl, rfl⟩
      obtain ⟨outcome, ended, ran, judged⟩ :=
        (makes_assembleHandle linked options).errorOf?_runWith preserve counted
          fun visit _ before same => by
            have exactlyBefore : ExactlyDefaults before.compiler.rules := same.1 ▸ exactly
            exact exactlyBefore.visit visit depth
      refine ⟨outcome, ended, ?_, ?_⟩
      · exact (runWith_pipeline_of_options _ circuit read).trans ran
      · rw [judged, prune_of_ofFlags _ read]
        rfl

theorem Produces.errorOf?_eq {compiler : Compiler Kind target} {ended : Session Kind target}
    {outcome : Except (Failure Kind target) Program}
    {result answer : Except (Failure Kind target) Handle}
    (produces : Produces compiler outcome result ended)
    (content : answer.map (·.content) = outcome) : errorOf? answer = errorOf? result := by
  cases produces <;> cases answer <;> cases content <;> rfl

/-- A compilation has the error of its pipeline, since a handle that this gives is accepted. -/
theorem Arises.errorOf?_compile {session : Session Kind target} (arises : Arises session)
    (exactly : ExactlyDefaults session.compiler.rules) {circuit : Circuit Kind}
    (linked : circuit.Linked) (missing : session.compiler.ledger.valueOf? circuit = none)
    (depth : Nat) :
    ∃ answer later,
      (Calls.within backend (depth + 2)).compile circuit session = some (answer, later) ∧
        errorOf? answer =
          (checks session.compiler.flags circuit).findSome?
            (Check.fault? session.compiler.flags) := by
  obtain ⟨known, numbering⟩ := arises.exists_numbering
  have follows : (setupOf session.compiler).rules.FollowsUnder (setupOf session.compiler).flags
      defaultResults := exactly.follows.under _
  obtain ⟨outcome, produced⟩ := Setup.exists_produces follows circuit
  obtain ⟨result, ended, ran, (produces : Produces session.compiler outcome result ended)⟩ :=
    produced circuit rfl depth (session.openRun backend circuit) rfl
  obtain ⟨answer, later, compiled, facts⟩ := produces.compiled ran numbering missing
  have opened : ExactlyDefaults (session.openRun backend circuit).compiler.rules := exactly
  obtain ⟨_, _, ranAgain, judged⟩ := errorOf?_pipeline opened linked depth
  cases ran.symm.trans ranAgain
  exact ⟨answer, later, compiled, (produces.errorOf?_eq facts.content).trans judged⟩

/-- Take a compiler with exactly the default rules, whose registered handles are such as it has
returned, and a circuit that it has not compiled.  The compilation succeeds exactly when the
semiring is absent or one of the three, the pruning is absent or a truth value, and no visited node
has a fault.  Otherwise the error is that of the first of these checks that fails. -/
theorem compile_reports_first_fault {session : Session Kind target} (arises : Arises session)
    (exactly : ExactlyDefaults session.compiler.rules) {circuit : Circuit Kind}
    (built : circuit.Built) (missing : session.compiler.ledger.valueOf? circuit = none)
    (depth : Nat) :
    let flags := session.compiler.flags
    ∃ answer later,
      session.perform backend (depth + 2) (Script.compile circuit) = some (answer, later) ∧
      ((∃ handle, answer = .ok handle) ↔
        semiringFault? flags = none ∧ pruneFault? flags = none ∧
          ∀ visit ∈ circuit.visits (pruning flags), visitFault? visit = none) ∧
      ∀ error, answer = .error error ↔
        ∃ earlier check rest, checks flags circuit = earlier ++ check :: rest ∧
          check.fault? flags = some error ∧ ∀ other ∈ earlier, other.fault? flags = none := by
  intro flags
  obtain ⟨answer, later, compiled, first⟩ :=
    arises.errorOf?_compile exactly built.linked missing depth
  refine ⟨answer, later, (Session.perform_compile backend _ circuit session).trans compiled, ?_, ?_⟩
  · exact errorOf?_eq_none_iff.symm.trans
      (first.congr_left.trans (findSome?_checks_eq_none_iff flags circuit))
  · exact fun error => errorOf?_eq_some_iff.symm.trans
      (first.congr_left.trans List.findSome?_eq_some_iff)

namespace Faulty

/-- The tensor is filled with a deviation of zero, and the axis is out of range. -/
def weight : ParameterGraph Kind where
  entries :=
    #[⟨⟨.tensorParameter, ⟨[2], true⟩⟩, [],
        some ⟨.normalInitializer, ⟨.zero false, .zero false⟩⟩⟩,
      ⟨⟨.softmaxParameter, ⟨[2], 1⟩⟩, [0], none⟩]
  output := 1

/-- The first layer has no categories, and no output depends on it. -/
def circuit : Circuit Kind where
  id := ⟨1⟩
  name := none
  layers :=
    #[⟨⟨.categoricalLayer, ⟨[0], 1, 0⟩⟩, [], []⟩, ⟨⟨.categoricalLayer, ⟨[0], 1, 2⟩⟩, [], []⟩,
      ⟨⟨.sumLayer, ⟨1, 1, 1⟩⟩, [1], [("weight", weight)]⟩]
  outputs := [2]

theorem built_weight : weight.Built :=
  ⟨⟨weight.entries⟩, 1, .pushAll weight.entries.toList .empty rfl, rfl⟩

theorem built_circuit : circuit.Built := by
  refine ⟨⟨none, circuit.layers⟩, {}, ⟨1⟩, [2], ?_, rfl⟩
  exact .pushAll circuit.layers.toList (.named none) (by simp [circuit, built_weight]) rfl

def unpruned : Flags := .ofList [("prune_unreachable", .bool false)]

def mistaken : Flags := .ofList [("prune_unreachable", .int 0), ("semiring", .bool true)]

def session (flags : Flags) : Session Kind target :=
  ⟨⟨({} : State), defaultRulebook .reject, flags, .empty⟩, #[], {}, []⟩

theorem arises_session (flags : Flags) : Arises (session flags) :=
  arises_of_empty rfl rfl (exactlyDefaults_defaultRulebook .reject).respects

end Faulty

/-- Pruned, the first fault is the deviation; not pruned, it is the layer without categories, unless
the flags are at fault. -/
theorem compile_reports_first_fault_faulty :
    (∀ flags, Arises (Faulty.session flags)) ∧ Faulty.circuit.Built ∧
      (∃ later, (Faulty.session .empty).perform backend 2 (Script.compile Faulty.circuit) =
        some (.error (.pipeline (Fault.deviationNotPositive (.zero false)).message), later)) ∧
      (∃ later, (Faulty.session Faulty.unpruned).perform backend 2
          (Script.compile Faulty.circuit) =
        some (.error (.pipeline Fault.noCategories.message), later)) ∧
      ∃ later, (Faulty.session Faulty.mistaken).perform backend 2 (Script.compile Faulty.circuit) =
        some (.error (.flag (.wrongType "semiring" .text (.bool true))), later) := by
  have reports (flags : Flags) := compile_reports_first_fault (Faulty.arises_session flags)
    (exactlyDefaults_defaultRulebook .reject) Faulty.built_circuit rfl 0
  refine ⟨Faulty.arises_session, Faulty.built_circuit, ?_, ?_, ?_⟩
  · obtain ⟨answer, later, ran, -, failed⟩ := reports .empty
    rw [(failed _).mpr (List.findSome?_eq_some_iff.mp rfl)] at ran
    exact ⟨later, ran⟩
  · obtain ⟨answer, later, ran, -, failed⟩ := reports Faulty.unpruned
    rw [(failed _).mpr (List.findSome?_eq_some_iff.mp rfl)] at ran
    exact ⟨later, ran⟩
  · obtain ⟨answer, later, ran, -, failed⟩ := reports Faulty.mistaken
    rw [(failed _).mpr (List.findSome?_eq_some_iff.mp rfl)] at ran
    exact ⟨later, ran⟩

end Circuitry.Reference
