import Circuitry.Event
import Circuitry.Text.Truth

/-!
Registries: tables of rules, one for each node kind of one category.

A rule is found under the exact kind it was registered for.  When there is none, the error names
the nearest declared supertype that has a rule; that rule is never used in its place.
-/

namespace Circuitry

/-- What happens when a kind that has a rule gets another one. -/
inductive DuplicatePolicy
  /-- The registration fails and the first rule stays. -/
  | reject
  /-- The new rule takes the place of the old one. -/
  | overwrite
  deriving DecidableEq, Repr

namespace DuplicatePolicy

def outline : DuplicatePolicy → String
  | .reject => "Reject"
  | .overwrite => "Overwrite"

/-- The policy that a variable of the environment asks for: overwriting when it spells true. -/
def ofVariable (setting : Option String) : DuplicatePolicy :=
  match setting with
  | some text => if Text.truth? text.toList = some true then .overwrite else .reject
  | none => .reject

end DuplicatePolicy

/-- What can go wrong with a registry. -/
inductive RegistryError (κ : Type)
  /-- A rule for a kind of another category than the registry's. -/
  | foreignKind (registry : Category) (kind : κ)
  /-- A second rule for a kind, where the policy is to reject it. -/
  | duplicate (registry : Category) (kind : κ)
  /-- No rule for a kind; the nearest supertype with a rule, if there is one. -/
  | missing (registry : Category) (kind : κ) (nearest : Option κ)
  deriving DecidableEq

/-- The error in words. -/
def RegistryError.message {κ : Type} [Vocabulary κ] : RegistryError κ → String
  | .foreignKind registry kind =>
    "invalid " ++ registry.label ++ " rule: node type `" ++ Vocabulary.name kind ++ "` is a "
      ++ (Vocabulary.category kind).label ++ " node"
  | .duplicate registry kind =>
    "a " ++ registry.label ++ " rule for `" ++ Vocabulary.name kind
      ++ "` is already registered"
  | .missing registry kind nearest =>
    "no " ++ registry.label ++ " compilation rule for `" ++ Vocabulary.name kind ++ "`"
      ++ match nearest with
        | some parent =>
          " (supertype `" ++ Vocabulary.name parent
            ++ "` has one, but rules match exact types only)"
        | none => ""

/-- A table of rules for the kinds of one category. -/
structure Registry (κ : Type) (ρ : Type u) where
  category : Category
  policy : DuplicatePolicy
  rules : List (κ × ρ)

namespace Registry

variable {κ : Type} [Vocabulary κ] {ρ : Type u} {σ : Type v}

/-- The registry without rules. -/
def empty (category : Category) (policy : DuplicatePolicy) : Registry κ ρ where
  category := category
  policy := policy
  rules := []

def rule? (registry : Registry κ ρ) (kind : κ) : Option ρ :=
  registry.rules.lookup kind

/-- Whether a kind has a rule. -/
def contains (registry : Registry κ ρ) (kind : κ) : Bool :=
  (registry.rule? kind).isSome

/-- The number of kinds with a rule. -/
def size (registry : Registry κ ρ) : Nat :=
  registry.rules.length

/-- Whether no kind has a rule. -/
def isEmpty (registry : Registry κ ρ) : Bool :=
  registry.rules.isEmpty

/-- Puts a rule in the place of the kind's rule, or at the end. -/
def bindRule (kind : κ) (rule : ρ) : List (κ × ρ) → List (κ × ρ)
  | [] => [(kind, rule)]
  | entry :: rest =>
    if entry.1 = kind then (kind, rule) :: rest else entry :: bindRule kind rule rest

/-- What is reported when a rule for a kind is accepted. -/
def announcements (registry : Registry κ ρ) (kind : κ) : List (Event κ) :=
  (if registry.contains kind then [.overwriting registry.category kind] else [])
    ++ [.registered registry.category kind]

/-- Registers a rule for a kind; gives the registry and what is reported. -/
def add (registry : Registry κ ρ) (kind : κ) (rule : ρ) :
    Except (RegistryError κ) (Registry κ ρ × List (Event κ)) :=
  if Vocabulary.category kind ≠ registry.category then
    .error (.foreignKind registry.category kind)
  else if registry.contains kind ∧ registry.policy = .reject then
    .error (.duplicate registry.category kind)
  else
    .ok ({ registry with rules := bindRule kind rule registry.rules },
      registry.announcements kind)

/-- The rule of a kind, or the error that it has none. -/
def find (registry : Registry κ ρ) (kind : κ) : Except (RegistryError κ) ρ :=
  match registry.rule? kind with
  | some rule => .ok rule
  | none =>
    .error (.missing registry.category kind
      ((Vocabulary.ancestors kind).find? fun ancestor => registry.contains ancestor))

/-- The kinds with a rule, in the order of their names. -/
def kinds (registry : Registry κ ρ) : List κ :=
  (registry.rules.map (·.1)).mergeSort fun left right =>
    decide (Vocabulary.name left ≤ Vocabulary.name right)

/-- The registry with every rule changed. -/
def map (registry : Registry κ ρ) (change : ρ → σ) : Registry κ σ where
  category := registry.category
  policy := registry.policy
  rules := registry.rules.map fun entry => (entry.1, change entry.2)

def outline (registry : Registry κ ρ) : String :=
  Text.record "RuleRegistry"
    [("category", registry.category.outline),
     ("policy", registry.policy.outline),
     ("rules", Text.bracketed (registry.kinds.map fun kind =>
       Text.quoted (Vocabulary.name kind)))]

/-! ## Looking up after a registration -/

theorem lookup_cons_ite (kind asked : κ) (rule : ρ) (rules : List (κ × ρ)) :
    List.lookup asked ((kind, rule) :: rules) =
      if asked = kind then some rule else rules.lookup asked := by
  by_cases same : asked = kind
  · rw [if_pos same, same]
    exact List.lookup_cons_self
  · have unequal : (asked == kind) = false := beq_eq_false_iff_ne.mpr same
    rw [if_neg same]
    rw [List.lookup_cons, unequal]

theorem lookup_bindRule (kind asked : κ) (rule : ρ) (rules : List (κ × ρ)) :
    (bindRule kind rule rules).lookup asked =
      if asked = kind then some rule else rules.lookup asked := by
  induction rules with
  | nil => exact lookup_cons_ite kind asked rule []
  | cons first rest inductionHypothesis =>
    obtain ⟨firstKind, firstRule⟩ := first
    unfold bindRule
    by_cases replaced : firstKind = kind
    · rw [if_pos replaced, lookup_cons_ite, lookup_cons_ite, replaced]
      by_cases same : asked = kind
      · rw [if_pos same, if_pos same]
      · rw [if_neg same, if_neg same, if_neg same]
    · rw [if_neg replaced, lookup_cons_ite, lookup_cons_ite, inductionHypothesis]
      by_cases same : asked = firstKind
      · have notKind : asked ≠ kind := same ▸ replaced
        rw [if_pos same, if_neg notKind, if_pos same]
      · rw [if_neg same, if_neg same]

/-- An accepted rule is for a kind of the registry's category, and not a duplicate that is to be
rejected; the registry differs from the one before in the kind's rule alone. -/
theorem eq_of_add {registry grown : Registry κ ρ} {kind : κ} {rule : ρ} {events : List (Event κ)}
    (added : registry.add kind rule = .ok (grown, events)) :
    Vocabulary.category kind = registry.category ∧
      ¬(registry.contains kind ∧ registry.policy = .reject) ∧
      grown = { registry with rules := bindRule kind rule registry.rules } ∧
      events = registry.announcements kind := by
  unfold add at added
  split at added
  · contradiction
  · next own =>
      split at added
      · contradiction
      · next allowed =>
          cases added
          exact ⟨Decidable.not_not.mp own, allowed, rfl, rfl⟩

/-- After a registration a kind has the new rule, if it is the one registered, or the rule it
had. -/
theorem rule?_of_add {registry grown : Registry κ ρ} {kind : κ} {rule : ρ}
    {events : List (Event κ)} (added : registry.add kind rule = .ok (grown, events)) (asked : κ) :
    grown.rule? asked = if asked = kind then some rule else registry.rule? asked := by
  obtain ⟨-, -, rfl, -⟩ := eq_of_add added
  exact lookup_bindRule kind asked rule registry.rules

/-- A registration keeps the category and the policy. -/
theorem category_of_add {registry grown : Registry κ ρ} {kind : κ} {rule : ρ}
    {events : List (Event κ)} (added : registry.add kind rule = .ok (grown, events)) :
    grown.category = registry.category ∧ grown.policy = registry.policy := by
  obtain ⟨-, -, rfl, -⟩ := eq_of_add added
  exact ⟨rfl, rfl⟩

theorem rule?_of_find {registry : Registry κ ρ} {kind : κ} {rule : ρ}
    (found : registry.find kind = .ok rule) : registry.rule? kind = some rule := by
  unfold find at found
  split at found
  · next other known =>
      cases found
      exact known
  · contradiction

theorem mem_of_rule? {registry : Registry κ ρ} {kind : κ} {rule : ρ}
    (known : registry.rule? kind = some rule) : (kind, rule) ∈ registry.rules := by
  obtain ⟨earlier, later, split, -⟩ := List.lookup_eq_some_iff.mp known
  rw [split]
  exact List.mem_append_right earlier List.mem_cons_self

end Registry

end Circuitry
