import Circuitry.Proofs.Compiler.Atomicity
import Circuitry.Proofs.Compiler.Restraint
import Circuitry.Proofs.Registry.History

/-!
# Slots

A compiler has one slot for the registry of each category.  A registry only takes rules for kinds of
its own category, and a compiler only takes registries into the slots of their categories, so no run
of a compiler ever puts a rule into a slot where it does not belong.  A node that is to be compiled
in the slot of another category therefore has no rule there.
-/

namespace Circuitry

variable {κ : Type} [Vocabulary κ]

namespace Registry

variable {ρ : Type u} {registry : Registry κ ρ} {category : Category}

/-- The registry is of a category, and so are all kinds with a rule. -/
structure OfCategory (registry : Registry κ ρ) (category : Category) : Prop where
  own : registry.category = category
  kinds : ∀ kind ∈ registry.kinds, Vocabulary.category kind = category

/-- The registry is what some registrations have made of an empty one. -/
def Filled (registry : Registry κ ρ) : Prop :=
  ∃ category policy registrations,
    registry = (Registration.performAll Registration.onRegistry registrations
      (.empty category policy)).2

namespace OfCategory

theorem of_empty (category : Category) (policy : DuplicatePolicy) :
    (empty category policy : Registry κ ρ).OfCategory category where
  own := rfl
  kinds kind member := by
    rw [mem_kinds_iff] at member
    contradiction

theorem add (ofCategory : registry.OfCategory category) {kind : κ} {rule : ρ}
    {grown : Registry κ ρ} {events : List (Event κ)}
    (added : registry.add kind rule = .ok (grown, events)) : grown.OfCategory category := by
  obtain ⟨ownKind, -, -, -⟩ := eq_of_add added
  have kept := (category_of_add added).1
  refine { own := kept.trans ofCategory.own, kinds := ?_ }
  intro known member
  rw [mem_kinds_iff, contains, rule?_of_add added] at member
  by_cases same : known = kind
  · rw [same, ownKind, ofCategory.own]
  · rw [if_neg same] at member
    exact ofCategory.kinds known ((registry.mem_kinds_iff known).mpr member)

theorem performAll (registrations : List (Registration κ ρ)) :
    ∀ {registry : Registry κ ρ}, registry.OfCategory category →
      (Registration.performAll Registration.onRegistry registrations registry).2.OfCategory
        category := by
  induction registrations with
  | nil => exact fun ofCategory => ofCategory
  | cons registration rest inductionHypothesis =>
      intro registry ofCategory
      refine inductionHypothesis ?_
      unfold Registration.onRegistry
      split
      · next grown events added => exact ofCategory.add added
      · exact ofCategory

theorem find_of_foreign (ofCategory : registry.OfCategory category) {kind : κ}
    (foreign : Vocabulary.category kind ≠ category) :
    registry.find kind = .error (.missing category kind
      ((Vocabulary.ancestors kind).find? fun ancestor => registry.contains ancestor)) := by
  have unknown : registry.rule? kind = none := by
    rw [← Option.not_isSome_iff_eq_none]
    intro known
    exact foreign (ofCategory.kinds kind ((registry.mem_kinds_iff kind).mpr known))
  rw [find, unknown, ofCategory.own]

end OfCategory

theorem Filled.ofCategory (filled : registry.Filled) (own : registry.category = category) :
    registry.OfCategory category := by
  obtain ⟨begun, policy, registrations, rfl⟩ := filled
  have ofBegun := OfCategory.performAll registrations (OfCategory.of_empty begun policy)
  have same : begun = category := ofBegun.own.symm.trans own
  exact same ▸ ofBegun

end Registry

namespace Rulebook

variable {target : Target} {book : Rulebook κ target}

/-- Each registry is of the category of its slot. -/
def Sorted (book : Rulebook κ target) : Prop :=
  ∀ slot, (book.registry slot).OfCategory slot

/-- The first slot with a registry of another category. -/
def misplaced? (book : Rulebook κ target) : Option Category :=
  Category.all.find? fun slot => (book.registry slot).category ≠ slot

theorem sorted_empty (policy : DuplicatePolicy) : (empty policy : Rulebook κ target).Sorted := by
  intro slot
  cases slot with
  | layer => exact .of_empty .layer policy
  | parameter => exact .of_empty .parameter policy
  | initializer => exact .of_empty .initializer policy

theorem Sorted.add (sorted : book.Sorted) {category : Category} {kind : κ}
    {rule : Rule κ target category} {grown : Rulebook κ target} {events : List (Event κ)}
    (added : book.add category kind rule = .ok (grown, events)) : grown.Sorted := by
  unfold Rulebook.add at added
  split at added
  · next registry reported accepted =>
      cases added
      intro slot
      rw [registry_withRegistry]
      by_cases same : category = slot
      · subst same
        rw [dif_pos rfl]
        exact (sorted category).add accepted
      · rw [dif_neg same]
        exact sorted slot
  · contradiction

theorem ofRegistries_eq (book : Rulebook κ target) :
    ofRegistries book.layers book.parameters book.initializers =
      match book.misplaced? with
      | some slot => .error (.registrySlot slot (book.registry slot).category)
      | none => .ok book := by
  unfold ofRegistries misplaced? Category.all
  simp only [List.find?_cons, List.find?_nil, registry]
  by_cases layers : book.layers.category = .layer
  · by_cases parameters : book.parameters.category = .parameter
    · by_cases initializers : book.initializers.category = .initializer
      · simp [layers, parameters, initializers]
      · simp [layers, parameters, initializers]
    · simp [layers, parameters]
  · simp [layers]

theorem misplaced?_eq_none_iff (book : Rulebook κ target) :
    book.misplaced? = none ↔ ∀ slot, (book.registry slot).category = slot := by
  have all : ∀ slot, slot ∈ Category.all := by
    intro slot
    cases slot <;> decide
  simp [misplaced?, List.find?_eq_none, all]

/-- Registries that are accepted are in the slots of their categories. -/
theorem sorted_of_registries {layers : Registry κ (Rule κ target .layer)}
    {parameters : Registry κ (Rule κ target .parameter)}
    {initializers : Registry κ (Rule κ target .initializer)}
    (layersFilled : layers.Filled) (parametersFilled : parameters.Filled)
    (initializersFilled : initializers.Filled)
    (accepted : ofRegistries layers parameters initializers = .ok book) : book.Sorted := by
  have checked := ofRegistries_eq ⟨layers, parameters, initializers⟩
  rw [accepted] at checked
  split at checked
  · contradiction
  · next inPlace =>
      cases checked
      have own := (misplaced?_eq_none_iff _).mp inPlace
      intro slot
      cases slot with
      | layer => exact layersFilled.ofCategory (own .layer)
      | parameter => exact parametersFilled.ofCategory (own .parameter)
      | initializer => exact initializersFilled.ofCategory (own .initializer)

end Rulebook

/-! ## Runs -/

namespace Session

variable {target : Target} {backend : Backend κ}

/-- Rules stay sorted into their slots. -/
def StaysSorted (session later : Session κ target) : Prop :=
  session.compiler.rules.Sorted → later.compiler.rules.Sorted

theorem staysSorted_kept :
    Kept (StaysSorted : Session κ target → Session κ target → Prop) where
  refl _ sorted := sorted
  trans before after sorted := after (before sorted)
  register session circuit output sorted := by
    rw [session.compiler_register circuit output]
    exact sorted
  addRule session category kind rule sorted := by
    unfold addRule
    split
    · next rules events added => exact sorted.add added
    · exact sorted
  update _ _ sorted := sorted
  report _ _ sorted := sorted
  countInvocation _ _ _ sorted := sorted
  finishCircuit session builder outputs sorted := by
    rw [session.compiler_finishCircuit builder outputs]
    exact sorted

end Session

/-- Settling a result changes nothing but the ledger. -/
theorem Compiler.rules_of_settle {target : Target} {compiler later : Compiler κ target}
    {circuit : Circuit κ} {output : target.Output}
    (settled : compiler.settle circuit output = .ok later) : later.rules = compiler.rules := by
  obtain ⟨known, -, -, rfl⟩ | ⟨-, registered⟩ := Compiler.settle_cases settled
  · rfl
  · obtain ⟨ledger, -, rfl⟩ := Compiler.eq_of_register registered
    rfl

namespace Session

variable {backend : Backend κ}

theorem rules_of_conclude {target : Target} (ended : Session κ target) (checkpoint : Nat)
    (circuit : Circuit κ) (result : Except (Failure κ target) target.Output) :
    (ended.conclude checkpoint circuit result).2.compiler.rules = ended.compiler.rules := by
  obtain ⟨cause, aborted⟩ | ⟨output, compiler, -, settled, succeeded⟩ :=
    ended.conclude_cases checkpoint circuit result
  · rw [aborted]
    rfl
  · rw [succeeded]
    exact Compiler.rules_of_settle settled

theorem staysSorted_concludes :
    Concludes backend (StaysSorted : Session κ backend.target → _ → Prop) := by
  intro session ended circuit result stays sorted
  rw [ended.rules_of_conclude]
  exact stays sorted

end Session

namespace Compiler

variable {target : Target} {backend : Backend κ}

/-- A compiler begins without rules, or with registries that have been filled before and are
accepted into its slots. -/
inductive Begins : Compiler κ target → Prop
  | new (state : target.State) (policy : DuplicatePolicy) (flags : Flags) :
      Begins (.new state policy flags)
  | withRegistries {layers : Registry κ (Rule κ target .layer)}
      {parameters : Registry κ (Rule κ target .parameter)}
      {initializers : Registry κ (Rule κ target .initializer)} {rules : Rulebook κ target}
      (state : target.State) (flags : Flags) :
      layers.Filled → parameters.Filled → initializers.Filled →
      Rulebook.ofRegistries layers parameters initializers = .ok rules →
      Begins ⟨state, rules, flags, .empty⟩

theorem Begins.sorted {compiler : Compiler κ target} (begins : compiler.Begins) :
    compiler.rules.Sorted := by
  cases begins with
  | new state policy flags => exact Rulebook.sorted_empty policy
  | withRegistries state flags layers parameters initializers accepted =>
      exact Rulebook.sorted_of_registries layers parameters initializers accepted

theorem sorted_of_performs {compiler later : Compiler κ backend.target}
    (performed : Relation.ReflTransGen (Performs backend) compiler later)
    (sorted : compiler.rules.Sorted) : later.rules.Sorted := by
  induction performed with
  | refl => exact sorted
  | tail _ performs inductionHypothesis =>
      obtain ⟨first, outcome, ended, rfl, ran, rfl⟩ := performs
      have stays := Session.staysSorted_kept.perform Session.staysSorted_concludes ran
      exact stays inductionHypothesis

end Compiler

section Refusal

variable {backend : Backend κ} {slot : Category} {node : Node κ}
  {session : Session κ backend.target} {error : RegistryError κ}

/-- A node without a rule is answered at once, so no rule is ever entered. -/
theorem Moment.Reaches.eq_of_missing {depth : Nat} {later : Moment backend}
    (missing : (session.compiler.rules.registry slot).find node.kind = .error error)
    (reaches : Reaches ⟨depth, Script.compileNode slot node, session⟩ later) :
    later = ⟨depth, Script.compileNode slot node, session⟩ ∨
      later = ⟨depth, (.fail (.registry error) : Script κ _ (backend.target.Value slot)),
        session⟩ := by
  induction reaches with
  | refl => exact Or.inl rfl
  | tail _ next inductionHypothesis =>
      obtain rfl | rfl := inductionHypothesis
      · unfold Script.compileNode at next
        cases next with
        | request requested => contradiction
        | enterRule found =>
            rw [missing] at found
            contradiction
        | passRule applied =>
            cases depth with
            | zero => contradiction
            | succ depth =>
                rw [Calls.apply_of_missing missing] at applied
                cases applied
                exact Or.inr rfl
      · cases next with
        | request requested => contradiction

end Refusal

/-! ## The invariant of slots -/

/-- Registries keep to their slots.  At any moment of any run of a compiler each of its registries
is of the category of its slot, with all its kinds.  A node that is compiled in the slot of another
category fails, because it has no rule there; the call passes through no other moment than its own
beginning and end, both in the session in which it was made.  Only registries in the slots of their
categories are accepted, and otherwise the first other one is named. -/
theorem registries_keep_to_slots {backend : Backend κ} {start : Compiler κ backend.target}
    (begins : start.Begins) {first call : Moment backend}
    (performed : Relation.ReflTransGen (Compiler.Performs backend) start first.session.compiler)
    (reached : first.Reaches call) :
    call.session.compiler.rules.Sorted ∧
      (∀ (slot : Category) (node : Node κ), node.category ≠ slot →
        let registry := call.session.compiler.rules.registry slot
        let failure : Failure κ backend.target := .registry (.missing slot node.kind
          ((Vocabulary.ancestors node.kind).find? fun ancestor => registry.contains ancestor))
        ∀ depth,
          call.session.perform backend (depth + 1) (Script.compileNode slot node) =
              some (.error failure, call.session) ∧
            ∀ later, Moment.Reaches ⟨depth + 1, Script.compileNode slot node, call.session⟩ later →
              later = ⟨depth + 1, Script.compileNode slot node, call.session⟩ ∨
                later = ⟨depth + 1,
                  (.fail failure : Script κ _ (backend.target.Value slot)), call.session⟩) ∧
      ∀ book : Rulebook κ backend.target,
        ((∃ failure,
            Rulebook.ofRegistries book.layers book.parameters book.initializers =
              .error failure) ↔
          ∃ slot, (book.registry slot).category ≠ slot) ∧
        Rulebook.ofRegistries book.layers book.parameters book.initializers =
          match book.misplaced? with
          | some slot => .error (.registrySlot slot (book.registry slot).category)
          | none => .ok book := by
  have stays := reached.related Session.staysSorted_kept Session.staysSorted_concludes
  have sorted := stays (Compiler.sorted_of_performs performed begins.sorted)
  refine ⟨sorted, ?_, ?_⟩
  · intro slot node foreign registry failure depth
    have missing := (sorted slot).find_of_foreign foreign
    constructor
    · rw [Session.perform, Script.runWith_compileNode, Calls.apply_of_missing missing]
    · exact fun later reaches => reaches.eq_of_missing missing
  · intro book
    refine ⟨?_, book.ofRegistries_eq⟩
    have inPlace := book.misplaced?_eq_none_iff
    rw [book.ofRegistries_eq, ← not_forall, ← inPlace]
    cases book.misplaced? with
    | none => simp
    | some slot => simp

namespace Crossing

/-- The second rule is refused, as it is for an initializer. -/
def registrations :
    List (Registration Kind (Rule Kind (Recording.target Kind) .layer)) :=
  [⟨.sumLayer, fun _ => .done (.ok "sum")⟩, ⟨.initOfSum, fun _ => .done (.ok "other")⟩]

/-- The registry of layers has been filled before. -/
def rules : Rulebook Kind (Recording.target Kind) where
  layers :=
    (Registration.performAll Registration.onRegistry registrations (.empty .layer .reject)).2
  parameters := .empty .parameter .reject
  initializers := .empty .initializer .reject

def session : Session Kind (Recording.target Kind) :=
  ⟨⟨({} : Recording.State Kind), rules, .empty, .empty⟩, #[], {}, []⟩

/-- Before a rule for the initializer is added. -/
def first : Moment (Recording.backend : Backend Kind) :=
  ⟨1, Script.addRule .initializer .initOfSum fun _ => .done (.ok "initializer"), session⟩

/-- After it was added. -/
def call : Moment (Recording.backend : Backend Kind) :=
  ⟨1, .done (.ok ()), (session.addRule .initializer .initOfSum
    (Rule.ofKind .initOfSum fun _ => .done (.ok "initializer"))).2⟩

def node : Node Kind := ⟨.initOfSum, ()⟩

end Crossing

/-- An initializer whose supertype is a sum is not compiled as a layer, although there are rules for
sums and for this initializer. -/
theorem registries_keep_to_slots_crossing :
    Crossing.session.compiler.Begins ∧ Crossing.first.Reaches Crossing.call ∧
      Crossing.node.category ≠ .layer ∧
      Crossing.call.session.perform Recording.backend 1
          (Script.compileNode .layer Crossing.node) =
        some (.error (.registry (.missing .layer .initOfSum (some .sumLayer))),
          Crossing.call.session) := by
  have layers : Crossing.rules.layers.Filled := ⟨.layer, .reject, Crossing.registrations, rfl⟩
  have parameters : Crossing.rules.parameters.Filled := ⟨.parameter, .reject, [], rfl⟩
  have initializers : Crossing.rules.initializers.Filled := ⟨.initializer, .reject, [], rfl⟩
  have begins : Crossing.session.compiler.Begins :=
    .withRegistries _ _ layers parameters initializers rfl
  have reached : Crossing.first.Reaches Crossing.call := .single (.request rfl)
  have foreign : Crossing.node.category ≠ .layer := by decide
  obtain ⟨-, fails, -⟩ := registries_keep_to_slots begins .refl reached
  exact ⟨begins, reached, foreign, (fails .layer Crossing.node foreign 0).1⟩

end Circuitry
