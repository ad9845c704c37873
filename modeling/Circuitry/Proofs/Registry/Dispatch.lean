import Circuitry.Catalogue.Kind
import Circuitry.Compiler
import Circuitry.Proofs.Registry.History
import Circuitry.Recording

/-!
# Dispatch by exact kind

A typed rule says what to do with the payload of one kind.  Registries hold it erased, as a rule for
all nodes, together with the kind that it was registered under.  In a registry of typed rules the
two kinds agree, so a rule that is found for a node does what was meant for exactly its kind.  A
rule that was passed on under other kinds still knows its own kind and refuses all other nodes.

Rules are scripts over a target with any state, so a context of any type is among these targets.
-/

namespace Circuitry

section Accepted

variable {κ : Type} {α : Type w} {β : Type x}

/-- The items whose registrations were accepted, as the replies say. -/
def RegistrationReply.accepted (items : List α) (replies : List (RegistrationReply κ)) : List α :=
  ((items.zip replies).filter fun pair => pair.2.result.isOk).map (·.1)

theorem RegistrationReply.accepted_map (change : α → β) (items : List α)
    (replies : List (RegistrationReply κ)) :
    accepted (items.map change) replies = (accepted items replies).map change := by
  simp [accepted, List.zip_map_left, List.filter_map, Function.comp_def]

end Accepted

variable {κ : Type} [Vocabulary κ] {target : Target} {slot : Category} {α : Type w} {β : Type x}

theorem DuplicatePolicy.standing?_map (policy : DuplicatePolicy) (kindOf : β → κ) (change : α → β)
    (items : List α) (kind : κ) :
    policy.standing? kindOf (items.map change) kind =
      (policy.standing? (fun item => kindOf (change item)) items kind).map change := by
  cases policy with
  | reject => exact List.find?_map
  | overwrite =>
      unfold standing?
      rw [← List.map_reverse]
      exact List.find?_map

theorem DuplicatePolicy.kind_of_standing? {policy : DuplicatePolicy} {kindOf : α → κ}
    {items : List α} {kind : κ} {item : α}
    (stands : policy.standing? kindOf items kind = some item) : kindOf item = kind := by
  cases policy with
  | reject => simpa using List.find?_some stands
  | overwrite => simpa using List.find?_some stands

namespace Registration

variable {ρ : Type u}

/-- The history is what the replies call accepted. -/
theorem history_performAll (category : Category) (policy : DuplicatePolicy)
    (registrations : List (Registration κ ρ)) :
    ∀ history : List (Registration κ ρ),
      (performAll (onHistory category policy) registrations history).2 =
        history ++ RegistrationReply.accepted registrations
          (performAll (onHistory category policy) registrations history).1 := by
  induction registrations with
  | nil =>
      intro history
      exact (List.append_nil history).symm
  | cons registration rest inductionHypothesis =>
      intro history
      simp only [performAll]
      rw [inductionHypothesis]
      unfold onHistory
      cases refusal? category policy history registration.kind with
      | some error => simp [RegistrationReply.accepted, Except.isOk, Except.toBool]
      | none => simp [RegistrationReply.accepted, Except.isOk, Except.toBool]

theorem rule?_performAll_of_ne {kind : κ} (registrations : List (Registration κ ρ)) :
    ∀ registry : Registry κ ρ,
      (∀ other ∈ registrations, other.kind ≠ kind) →
        (performAll onRegistry registrations registry).2.rule? kind = registry.rule? kind := by
  induction registrations with
  | nil =>
      intro registry _
      rfl
  | cons registration rest inductionHypothesis =>
      intro registry others
      have different : kind ≠ registration.kind := (others registration List.mem_cons_self).symm
      simp only [performAll]
      rw [inductionHypothesis _ fun other member => others other (List.mem_cons_of_mem _ member)]
      unfold onRegistry
      split
      · next grown events added => rw [Registry.rule?_of_add added, if_neg different]
      · rfl

end Registration

theorem Node.payloadAs?_self (kind : κ) (payload : Vocabulary.Payload kind) :
    (⟨kind, payload⟩ : Node κ).payloadAs? kind = some payload :=
  dif_pos rfl

theorem Node.payloadAs?_of_ne {kind : κ} {node : Node κ} (different : node.kind ≠ kind) :
    node.payloadAs? kind = none :=
  dif_neg different

/-- What to do with the nodes of one kind. -/
structure TypedRule (κ : Type) [Vocabulary κ] (target : Target) (slot : Category) where
  kind : κ
  body : Vocabulary.Payload kind → Script κ target (target.Value slot)

namespace TypedRule

def erased (rule : TypedRule κ target slot) : Rule κ target slot :=
  Rule.ofKind rule.kind rule.body

theorem erased_self (rule : TypedRule κ target slot) (payload : Vocabulary.Payload rule.kind) :
    rule.erased ⟨rule.kind, payload⟩ = rule.body payload := by
  unfold erased Rule.ofKind
  rw [Node.payloadAs?_self]

theorem erased_of_ne (rule : TypedRule κ target slot) {node : Node κ}
    (different : node.kind ≠ rule.kind) :
    rule.erased node = .fail (.kindMismatch rule.kind node.kind) := by
  unfold erased Rule.ofKind
  rw [Node.payloadAs?_of_ne different]

/-- A typed rule is registered under its own kind. -/
def registration (rule : TypedRule κ target slot) : Registration κ (Rule κ target slot) :=
  ⟨rule.kind, rule.erased⟩

end TypedRule

namespace TypedRule

/-- Registers typed rules in turn in an empty registry; gives the replies and the registry. -/
def registerAll (category : Category) (policy : DuplicatePolicy)
    (rules : List (TypedRule κ target slot)) :
    List (RegistrationReply κ) × Registry κ (Rule κ target slot) :=
  Registration.performAll Registration.onRegistry (rules.map registration)
    (.empty category policy)

/-- The typed rules that are accepted when they are registered in turn. -/
def accepted (category : Category) (policy : DuplicatePolicy)
    (rules : List (TypedRule κ target slot)) : List (TypedRule κ target slot) :=
  RegistrationReply.accepted rules (registerAll category policy rules).1

/-- A registry of typed rules holds under each kind the erasure of the accepted rule that counts
for it. -/
theorem rule?_registerAll (category : Category) (policy : DuplicatePolicy)
    (rules : List (TypedRule κ target slot)) (kind : κ) :
    (registerAll category policy rules).2.rule? kind =
      (policy.standing? (·.kind) (accepted category policy rules) kind).map erased := by
  obtain ⟨sameReplies, stands⟩ := Registry.Stands.performAll (rules.map registration)
    (Registry.stands_empty category policy)
  have history := Registration.history_performAll category policy (rules.map registration) []
  rw [List.nil_append, ← sameReplies, RegistrationReply.accepted_map] at history
  unfold registerAll accepted registerAll
  rw [stands.rule?, history, DuplicatePolicy.standing?_map, Option.map_map]
  rfl

end TypedRule

/-- A rule is registered under some kind of some registry; it, or what is found there after
registrations for other kinds, is registered again, and so on. -/
inductive Rule.PassedOn (rule : Rule κ target slot) : Rule κ target slot → Prop
  | found : PassedOn rule rule
  | again {passed next : Rule κ target slot} {registry grown : Registry κ (Rule κ target slot)}
      {kind : κ} {events : List (Event κ)} (others : List (Registration κ (Rule κ target slot))) :
      PassedOn rule passed →
      registry.add kind passed = .ok (grown, events) →
      (∀ other ∈ others, other.kind ≠ kind) →
      (Registration.performAll Registration.onRegistry others grown).2.find kind = .ok next →
      PassedOn rule next

theorem Rule.PassedOn.same {rule next : Rule κ target slot} (passedOn : rule.PassedOn next) :
    next = rule := by
  induction passedOn with
  | found => rfl
  | again others _ added different found inductionHypothesis =>
      have known := Registry.rule?_of_find found
      rw [Registration.rule?_performAll_of_ne others _ different, Registry.rule?_of_add added,
        if_pos rfl, Option.some.injEq] at known
      exact known.symm.trans inductionHypothesis

/-- Dispatch is by exact kind.  In a registry of typed rules a rule is found for a node exactly when
one was accepted for the node's kind, and it does with the node what the rule that counts for the
kind was made to do with its payload.  A node of another kind than the one that a rule was made for
is refused by the rule, also after the rule was passed on under other kinds; nothing is run and the
session stays as it is. -/
theorem dispatch_exact (category : Category) (policy : DuplicatePolicy)
    (rules : List (TypedRule κ target slot)) :
    (∀ node : Node κ,
      (∃ rule, (TypedRule.registerAll category policy rules).2.find node.kind = .ok rule) ↔
        ∃ made ∈ TypedRule.accepted category policy rules, made.kind = node.kind) ∧
    (∀ (node : Node κ) (rule : Rule κ target slot),
      (TypedRule.registerAll category policy rules).2.find node.kind = .ok rule →
        ∃ (made : TypedRule κ target slot) (payload : Vocabulary.Payload made.kind),
          policy.standing? (·.kind) (TypedRule.accepted category policy rules) node.kind =
              some made ∧
            node = ⟨made.kind, payload⟩ ∧ rule node = made.body payload) ∧
    ∀ (kind : κ) (rule next : Rule κ target slot),
      (TypedRule.registerAll category policy rules).2.find kind = .ok rule →
        rule.PassedOn next →
          ∀ node : Node κ, node.kind ≠ kind →
            next node = .fail (.kindMismatch kind node.kind) ∧
              ∀ (calls : Calls κ target) (session : Session κ target),
                (next node).runWith calls session =
                  some (.error (.kindMismatch kind node.kind), session) := by
  have stands : ∀ kind rule,
      (TypedRule.registerAll category policy rules).2.find kind = .ok rule ↔
        ∃ made, policy.standing? (·.kind) (TypedRule.accepted category policy rules) kind =
          some made ∧ made.erased = rule := by
    intro kind rule
    rw [Registry.find_eq_ok_iff, TypedRule.rule?_registerAll, Option.map_eq_some_iff]
  refine ⟨?_, ?_, ?_⟩
  · intro node
    rw [← policy.exists_standing?_iff]
    simp only [stands]
    grind
  · intro node rule found
    obtain ⟨made, counts, rfl⟩ := (stands node.kind rule).mp found
    have ownKind : made.kind = node.kind := DuplicatePolicy.kind_of_standing? counts
    obtain ⟨kind, payload⟩ := node
    dsimp only at ownKind
    subst ownKind
    exact ⟨made, payload, counts, rfl, made.erased_self payload⟩
  · intro kind rule next found passedOn node different
    obtain ⟨made, counts, rfl⟩ := (stands kind rule).mp found
    have ownKind : made.kind = kind := DuplicatePolicy.kind_of_standing? counts
    have refused : next node = .fail (.kindMismatch kind node.kind) := by
      rw [passedOn.same, made.erased_of_ne (ownKind.symm ▸ different), ownKind]
    refine ⟨refused, ?_⟩
    intro calls session
    rw [refused]
    rfl

namespace Subtypes

def tagged (kind : Kind) (tag : String) : TypedRule Kind (Recording.target Kind) .layer :=
  ⟨kind, fun _ => .done (.ok tag)⟩

/-- The second rule for leaves is a duplicate, and the last rule is for no kind of layers. -/
def rules : List (TypedRule Kind (Recording.target Kind) .layer) :=
  [tagged .leaf "leaf", tagged .plainSum "sum", tagged .leaf "other", tagged .ones "ones"]

abbrev registry : Registry Kind (Rule Kind (Recording.target Kind) .layer) :=
  (TypedRule.registerAll .layer .reject rules).2

end Subtypes

/-- A weighted sum has no rule, a leaf has its first one, and this rule refuses a weighted sum when
it is registered for weighted sums. -/
theorem dispatch_exact_subtypes :
    (¬∃ rule, Subtypes.registry.find .weightedSum = .ok rule) ∧
      ∃ rule grown next, Subtypes.registry.find .leaf = .ok rule ∧
        rule ⟨.leaf, ()⟩ = .done (.ok "leaf") ∧
        Registry.add (.empty .layer .overwrite) Kind.weightedSum rule =
          .ok (grown, [.registered .layer .weightedSum]) ∧
        grown.find .weightedSum = .ok next ∧
        next ⟨.weightedSum, ()⟩ = .fail (.kindMismatch .leaf .weightedSum) := by
  obtain ⟨found, applied, refused⟩ := dispatch_exact .layer .reject Subtypes.rules
  have kinds : (TypedRule.accepted .layer .reject Subtypes.rules).map (·.kind) =
      [Kind.leaf, Kind.plainSum] := rfl
  have missing : ¬∃ rule, Subtypes.registry.find .weightedSum = .ok rule := by
    intro exists_rule
    obtain ⟨made, member, same⟩ := (found ⟨.weightedSum, ()⟩).mp exists_rule
    have listed : made.kind ∈ [Kind.leaf, Kind.plainSum] := kinds ▸ List.mem_map_of_mem member
    rw [same] at listed
    exact absurd listed (by decide)
  obtain ⟨rule, leafFound⟩ : ∃ rule, Subtypes.registry.find .leaf = .ok rule := ⟨_, rfl⟩
  obtain ⟨made, payload, counts, same, does⟩ := applied ⟨.leaf, ()⟩ rule leafFound
  cases counts
  cases same
  have added : Registry.add (.empty .layer .overwrite) Kind.weightedSum rule =
      .ok (⟨.layer, .overwrite, [(.weightedSum, rule)]⟩, [.registered .layer .weightedSum]) := rfl
  have passedOn : rule.PassedOn rule := .again [] .found added (by simp) rfl
  exact ⟨missing, rule, _, rule, leafFound, does, added, rfl,
    (refused .leaf rule rule leafFound passedOn ⟨.weightedSum, ()⟩ (by decide)).1⟩

end Circuitry
