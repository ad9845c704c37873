import Circuitry.Proofs.Compiler.Quiet
import Circuitry.Proofs.Compiler.Restraint
import Circuitry.Proofs.Reference.Translation
import Circuitry.Proofs.Registry.History
import Circuitry.Reference.Defaults

/-!
# The default rules

The default rules are a table of checks, one for each standard kind.  A new compiler gets exactly
the rulebook of this table, which is quiet: what it says about a node is what the check of the
node's kind says about its payload.
-/

namespace Circuitry.Reference

/-- A kind with the check of its default rule. -/
structure DefaultRule (category : Category) where
  kind : Kind
  check : kind.Payload → Except Fault (target.Value category)

namespace DefaultRule

variable {category : Category}

/-- The outcome of the check for a payload, as the compiler hands it on. -/
def outcome (default : DefaultRule category) (payload : default.kind.Payload) :
    Except (Failure Kind target) (target.Value category) :=
  (default.check payload).mapError fun fault => .pipeline fault.message

def rule (default : DefaultRule category) : Rule Kind target category :=
  Rule.ofKind default.kind fun payload => Script.ofExcept (default.outcome payload)

def outcome? (default : DefaultRule category) (node : Node Kind) :
    Option (Except (Failure Kind target) (target.Value category)) :=
  (node.payloadAs? default.kind).map default.outcome

/-- The rule stands in the rulebook under its kind. -/
def HeldBy (default : DefaultRule category) (book : Rulebook Kind target) : Prop :=
  (book.registry category).rule? default.kind = some default.rule

theorem rule_of_kind (default : DefaultRule category) (payload : default.kind.Payload) :
    default.rule ⟨default.kind, payload⟩ = .done (default.outcome payload) := by
  have carried : Node.payloadAs? default.kind ⟨default.kind, payload⟩ = some payload := dif_pos rfl
  unfold rule Rule.ofKind
  rw [carried]
  rfl

/-- The rule asks for nothing, so it keeps within any restraint. -/
theorem rule_respects (default : DefaultRule category) {allowed : (State → State) → Prop}
    (node : Node Kind) : (default.rule node).Respects allowed := by
  refine Rule.ofKind_respects (fun payload => ?_) node
  exact (trivial : (Script.ofExcept (default.outcome payload)).Respects allowed)

theorem perform_compileNode {default : DefaultRule category} {session : Session Kind target}
    (held : default.HeldBy session.compiler.rules) (payload : default.kind.Payload)
    (depth : Nat) :
    session.perform backend (depth + 1)
        (Script.compileNode category ⟨default.kind, payload⟩) =
      some (default.outcome payload, session.report [.compiling category default.kind]) := by
  have found : (session.compiler.rules.registry category).find default.kind =
      .ok default.rule := (Registry.find_eq_ok_iff _ _ _).mpr held
  have applied : (Calls.within backend (depth + 1)).apply category default.kind
      ⟨default.kind, payload⟩ true session =
        some (default.outcome payload, session.report [.compiling category default.kind]) := by
    change Calls.applyWith _ category default.kind _ true session = _
    unfold Calls.applyWith
    rw [found]
    change (default.rule ⟨default.kind, payload⟩).runWith _ _ = _
    rw [default.rule_of_kind]
    rfl
  exact Script.runWith_applying _ applied

end DefaultRule

def defaultRules : (category : Category) → List (DefaultRule category)
  | .layer =>
    [⟨.categoricalLayer, LayerOp.ofCategorical⟩, ⟨.gaussianLayer, LayerOp.ofGaussian⟩,
     ⟨.sumLayer, LayerOp.ofSum⟩, ⟨.hadamardLayer, LayerOp.ofHadamard⟩,
     ⟨.kroneckerLayer, LayerOp.ofKronecker⟩]
  | .parameter =>
    [⟨.tensorParameter, ParameterOp.ofTensor⟩, ⟨.constantParameter, ParameterOp.ofConstant⟩,
     ⟨.softmaxParameter, ParameterOp.ofSoftmax⟩, ⟨.expParameter, ParameterOp.ofExp⟩]
  | .initializer =>
    [⟨.constantInitializer, Initializer.ofConstant⟩, ⟨.normalInitializer, Initializer.ofNormal⟩,
     ⟨.uniformInitializer, Initializer.ofUniform⟩]

/-- What the default rules say about a node. -/
def defaultResults : Results Kind target := fun category node =>
  ((defaultRules category).findSome? fun default => default.outcome? node).getD
    (.error (.registry (.missing category node.kind none)))

def defaultRegistry (policy : DuplicatePolicy) (category : Category) :
    Registry Kind (Rule Kind target category) where
  category := category
  policy := policy
  rules := (defaultRules category).map fun default => (default.kind, default.rule)

/-- The rulebook with exactly the default rules. -/
def defaultRulebook (policy : DuplicatePolicy) : Rulebook Kind target where
  layers := defaultRegistry policy .layer
  parameters := defaultRegistry policy .parameter
  initializers := defaultRegistry policy .initializer

/-- Adding the default rules to a new compiler succeeds and gives it their rulebook. -/
theorem runWith_addDefaultRules (calls : Calls Kind target) (state : State)
    (policy : DuplicatePolicy) (flags : Flags) (events : Array (Event Kind)) (supply : Supply)
    (invocations : List Invocation) :
    ∃ ended, addDefaultRules.runWith calls
        ⟨(Compiler.new state policy flags : Compiler Kind target), events, supply, invocations⟩ =
          some (.ok (), ended) ∧
      ended.compiler = ⟨state, defaultRulebook policy, flags, .empty⟩ :=
  ⟨_, rfl, rfl⟩

/-- The first entry of the node's kind decides, in the table as in the registry. -/
theorem DefaultRule.yields_of_lookup {category : Category} {defaults : List (DefaultRule category)}
    {node : Node Kind} {rule : Rule Kind target category}
    (found : (defaults.map fun default => (default.kind, default.rule)).lookup node.kind =
      some rule) :
    ∃ outcome, (defaults.findSome? fun default => default.outcome? node) = some outcome ∧
      rule node = .done outcome := by
  induction defaults with
  | nil => cases found
  | cons first rest inductionHypothesis =>
      rw [List.map_cons, Registry.lookup_cons_ite] at found
      by_cases same : node.kind = first.kind
      · rw [if_pos same] at found
        cases found
        have carried : node.payloadAs? first.kind = some (same ▸ node.payload) := dif_pos same
        refine ⟨first.outcome (same ▸ node.payload), ?_, ?_⟩
        · rw [List.findSome?_cons]
          unfold DefaultRule.outcome?
          rw [carried]
          rfl
        · unfold DefaultRule.rule Rule.ofKind
          rw [carried]
          rfl
      · rw [if_neg same] at found
        have absent : node.payloadAs? first.kind = none := dif_neg same
        obtain ⟨outcome, listed, yields⟩ := inductionHypothesis found
        refine ⟨outcome, ?_, yields⟩
        rw [List.findSome?_cons]
        unfold DefaultRule.outcome?
        rw [absent]
        exact listed

/-- Each registry is of the category of its slot and has the default rules and no others. -/
structure ExactlyDefaults (book : Rulebook Kind target) : Prop where
  own : ∀ slot, (book.registry slot).category = slot
  rule? : ∀ slot kind, (book.registry slot).rule? kind =
    ((defaultRules slot).map fun default => (default.kind, default.rule)).lookup kind

theorem exactlyDefaults_defaultRulebook (policy : DuplicatePolicy) :
    ExactlyDefaults (defaultRulebook policy) where
  own slot := by cases slot <;> rfl
  rule? slot kind := by cases slot <;> rfl

theorem ExactlyDefaults.follows {book : Rulebook Kind target} (exactly : ExactlyDefaults book) :
    book.Follows defaultResults := by
  intro category node rule found
  have looked := Registry.rule?_of_find found
  rw [exactly.rule?] at looked
  obtain ⟨outcome, listed, yields⟩ := DefaultRule.yields_of_lookup looked
  have result : defaultResults category node = outcome := by
    unfold defaultResults
    rw [listed]
    rfl
  rw [result, yields]
  exact .done outcome

theorem ExactlyDefaults.respects {book : Rulebook Kind target} (exactly : ExactlyDefaults book)
    {allowed : (State → State) → Prop} : book.Respects allowed := by
  intro slot kind rule held node
  rw [exactly.rule?] at held
  obtain ⟨earlier, later, split, -⟩ := List.lookup_eq_some_iff.mp held
  have member :
      (kind, rule) ∈ (defaultRules slot).map fun default => (default.kind, default.rule) :=
    split ▸ List.mem_append_right earlier List.mem_cons_self
  obtain ⟨default, -, same⟩ := List.mem_map.mp member
  cases same
  exact default.rule_respects node

theorem defaultRulebook_follows (policy : DuplicatePolicy) :
    (defaultRulebook policy).Follows defaultResults :=
  (exactlyDefaults_defaultRulebook policy).follows

/-- A value that the default rules give has passed the check of one of them. -/
theorem exists_check_of_defaultResults {category : Category} {node : Node Kind}
    {value : target.Value category} (result : defaultResults category node = .ok value) :
    ∃ default ∈ defaultRules category, ∃ payload, default.check payload = .ok value := by
  unfold defaultResults at result
  cases listed : (defaultRules category).findSome? fun default => default.outcome? node with
  | none =>
      rw [listed] at result
      cases result
  | some outcome =>
      rw [listed] at result
      have passed : outcome = .ok value := result
      obtain ⟨default, member, given⟩ := List.exists_of_findSome?_eq_some listed
      obtain ⟨payload, -, checked⟩ := Option.map_eq_some_iff.mp given
      exact ⟨default, member, payload, ok_of_mapError (checked.trans passed)⟩

end Circuitry.Reference
