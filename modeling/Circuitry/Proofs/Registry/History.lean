import Circuitry.Registry
import Mathlib.Data.Finset.Card
import Mathlib.Data.List.Sort

/-!
# The history of a registry

Registrations are performed a second time on a history, which is the list of those that were
accepted, oldest first.  The two give the same replies, and at every moment the registry answers
all questions as the history says: for each kind the first registration counts, or the last one
where rules are overwritten.
-/

namespace Circuitry

/-- A rule that is to be registered for a kind. -/
structure Registration (κ : Type) (ρ : Type u) where
  kind : κ
  rule : ρ

/-- The result of a registration, and what was reported meanwhile. -/
structure RegistrationReply (κ : Type) where
  result : Except (RegistryError κ) Unit
  events : List (Event κ)

variable {κ : Type} [Vocabulary κ] {ρ : Type u} {σ : Type v} {α : Type w}

namespace Registration

def onRegistry (registry : Registry κ ρ) (registration : Registration κ ρ) :
    RegistrationReply κ × Registry κ ρ :=
  match registry.add registration.kind registration.rule with
  | .ok (grown, events) => (⟨.ok (), events⟩, grown)
  | .error error => (⟨.error error, []⟩, registry)

/-- Why a registration is refused: the category of its kind is looked at first, then, if the policy
is to reject, the kinds that were accepted before. -/
def refusal? (category : Category) (policy : DuplicatePolicy)
    (history : List (Registration κ ρ)) (kind : κ) : Option (RegistryError κ) :=
  if Vocabulary.category kind ≠ category then some (.foreignKind category kind)
  else if policy = .reject ∧ ∃ earlier ∈ history, earlier.kind = kind then
    some (.duplicate category kind)
  else none

theorem unknown_of_accepted {category : Category} {policy : DuplicatePolicy}
    {history : List (Registration κ ρ)} {kind : κ}
    (accepted : refusal? category policy history kind = none) (reject : policy = .reject) :
    ¬∃ earlier ∈ history, earlier.kind = kind := by
  unfold refusal? at accepted
  split at accepted
  · contradiction
  · split at accepted
    · contradiction
    · next notDuplicate => exact fun known => notDuplicate ⟨reject, known⟩

/-- A refused registration leaves the history and reports nothing. -/
def onHistory (category : Category) (policy : DuplicatePolicy)
    (history : List (Registration κ ρ)) (registration : Registration κ ρ) :
    RegistrationReply κ × List (Registration κ ρ) :=
  match refusal? category policy history registration.kind with
  | some error => (⟨.error error, []⟩, history)
  | none =>
    (⟨.ok (),
      (if ∃ earlier ∈ history, earlier.kind = registration.kind then
        [.overwriting category registration.kind] else [])
        ++ [.registered category registration.kind]⟩,
      history ++ [registration])

/-- Performs registrations in turn; gives the replies and what is left. -/
def performAll (perform : σ → Registration κ ρ → RegistrationReply κ × σ) :
    List (Registration κ ρ) → σ → List (RegistrationReply κ) × σ
  | [], state => ([], state)
  | registration :: rest, state =>
    let first := perform state registration
    let others := performAll perform rest first.2
    (first.1 :: others.1, others.2)

end Registration

/-- What counts for a kind among the things accepted for kinds, oldest first: the first one, or the
last one where they are overwritten. -/
def DuplicatePolicy.standing? (policy : DuplicatePolicy) (kindOf : α → κ) (accepted : List α)
    (kind : κ) : Option α :=
  match policy with
  | .reject => accepted.find? fun item => kindOf item = kind
  | .overwrite => accepted.reverse.find? fun item => kindOf item = kind

namespace DuplicatePolicy

variable {kindOf : α → κ} {accepted : List α}

theorem exists_standing?_iff (policy : DuplicatePolicy) (kind : κ) :
    (∃ item, policy.standing? kindOf accepted kind = some item) ↔
      ∃ item ∈ accepted, kindOf item = kind := by
  rw [← Option.isSome_iff_exists]
  cases policy with
  | reject => simp [standing?, List.find?_isSome]
  | overwrite => simp [standing?, List.find?_isSome]

theorem standing?_append {policy : DuplicatePolicy} {item : α}
    (allowed : policy = .reject → ¬∃ earlier ∈ accepted, kindOf earlier = kindOf item) (kind : κ) :
    policy.standing? kindOf (accepted ++ [item]) kind =
      if kind = kindOf item then some item else policy.standing? kindOf accepted kind := by
  cases policy with
  | reject =>
      simp only [standing?, List.find?_append, List.find?_singleton, decide_eq_true_eq]
      by_cases same : kind = kindOf item
      · have unknown : accepted.find? (fun earlier => kindOf earlier = kind) = none := by
          simpa [same] using allowed rfl
        rw [unknown, if_pos same.symm, if_pos same, Option.none_or]
      · rw [if_neg (Ne.symm same), if_neg same, Option.or_none]
  | overwrite =>
      simp only [standing?, List.reverse_append, List.reverse_singleton, List.singleton_append,
        List.find?_cons]
      by_cases same : kind = kindOf item
      · simp [same]
      · simp [same, Ne.symm same]

end DuplicatePolicy

namespace Registry

variable {registry : Registry κ ρ} {category : Category} {policy : DuplicatePolicy}
  {history : List (Registration κ ρ)}

/-- The registry answers every question as the history says.  Its kinds are in the order of their
names, which is a strict order when different kinds have different names. -/
structure Records (registry : Registry κ ρ) (category : Category) (policy : DuplicatePolicy)
    (history : List (Registration κ ρ)) : Prop where
  ofCategory : registry.category = category
  underPolicy : registry.policy = policy
  found : ∀ kind,
    (∃ rule, registry.find kind = .ok rule) ↔ ∃ earlier ∈ history, earlier.kind = kind
  find : ∀ kind rule, registry.find kind = .ok rule ↔
    ∃ standing, policy.standing? (·.kind) history kind = some standing ∧ standing.rule = rule
  contains : ∀ kind, registry.contains kind = true ↔ ∃ earlier ∈ history, earlier.kind = kind
  size : registry.size = (history.map (·.kind)).toFinset.card
  isEmpty : registry.isEmpty = true ↔ history = []
  kinds : ∀ kind, kind ∈ registry.kinds ↔ ∃ earlier ∈ history, earlier.kind = kind
  kindsOnce : registry.kinds.Nodup
  kindsOrdered : registry.kinds.Pairwise fun left right =>
    Vocabulary.name left ≤ Vocabulary.name right
  kindsStrict : Function.Injective (Vocabulary.name : κ → String) →
    registry.kinds.Pairwise fun left right => Vocabulary.name left < Vocabulary.name right

theorem map_fst_bindRule (kind : κ) (rule : ρ) (rules : List (κ × ρ)) :
    (bindRule kind rule rules).map (·.1) =
      if kind ∈ rules.map (·.1) then rules.map (·.1) else rules.map (·.1) ++ [kind] := by
  induction rules with
  | nil => rfl
  | cons first rest inductionHypothesis =>
      unfold bindRule
      by_cases replaced : first.1 = kind
      · have member : kind ∈ (first :: rest).map (·.1) := by simp [replaced]
        rw [if_pos replaced, if_pos member, List.map_cons, List.map_cons, replaced]
      · rw [if_neg replaced, List.map_cons, inductionHypothesis, List.map_cons]
        by_cases member : kind ∈ rest.map (·.1)
        · rw [if_pos member, if_pos (List.mem_cons_of_mem _ member)]
        · have absent : kind ∉ first.1 :: rest.map (·.1) := by
            rw [List.mem_cons, not_or]
            exact ⟨Ne.symm replaced, member⟩
          rw [if_neg member, if_neg absent, List.cons_append]

theorem map_fst_of_add {grown : Registry κ ρ} {kind : κ} {rule : ρ} {events : List (Event κ)}
    (added : registry.add kind rule = .ok (grown, events)) :
    grown.rules.map (·.1) =
      if kind ∈ registry.rules.map (·.1) then registry.rules.map (·.1)
      else registry.rules.map (·.1) ++ [kind] := by
  obtain ⟨-, -, rfl, -⟩ := eq_of_add added
  exact map_fst_bindRule kind rule registry.rules

theorem mem_map_fst_iff (registry : Registry κ ρ) (kind : κ) :
    kind ∈ registry.rules.map (·.1) ↔ registry.contains kind = true := by
  unfold contains rule?
  induction registry.rules with
  | nil => simp
  | cons first rest inductionHypothesis =>
      obtain ⟨firstKind, firstRule⟩ := first
      rw [List.map_cons, List.mem_cons, inductionHypothesis, lookup_cons_ite]
      by_cases same : kind = firstKind
      · simp [same]
      · simp [same]

theorem perm_kinds (registry : Registry κ ρ) :
    registry.kinds.Perm (registry.rules.map (·.1)) :=
  List.mergeSort_perm _ _

theorem mem_kinds_iff (registry : Registry κ ρ) (kind : κ) :
    kind ∈ registry.kinds ↔ registry.contains kind = true := by
  rw [registry.perm_kinds.mem_iff, mem_map_fst_iff]

theorem kinds_ordered (registry : Registry κ ρ) :
    registry.kinds.Pairwise fun left right => Vocabulary.name left ≤ Vocabulary.name right := by
  have transitive : ∀ first second third : κ,
      decide (Vocabulary.name first ≤ Vocabulary.name second) = true →
        decide (Vocabulary.name second ≤ Vocabulary.name third) = true →
          decide (Vocabulary.name first ≤ Vocabulary.name third) = true := by
    intro first second third before after
    rw [decide_eq_true_eq] at before after ⊢
    exact String.le_trans before after
  have total : ∀ left right : κ,
      (decide (Vocabulary.name left ≤ Vocabulary.name right) ||
        decide (Vocabulary.name right ≤ Vocabulary.name left)) = true := by
    intro left right
    simpa using String.le_total (Vocabulary.name left) (Vocabulary.name right)
  have sorted := List.pairwise_mergeSort transitive total (registry.rules.map (·.1))
  exact sorted.imp fun {left right} before => of_decide_eq_true before

theorem find_eq_ok_iff (registry : Registry κ ρ) (kind : κ) (rule : ρ) :
    registry.find kind = .ok rule ↔ registry.rule? kind = some rule := by
  unfold find
  cases registry.rule? kind with
  | none => simp
  | some known => simp

/-- What registrations keep: the rule that counts stands for each kind, and no kind stands
twice. -/
structure Stands (registry : Registry κ ρ) (category : Category) (policy : DuplicatePolicy)
    (history : List (Registration κ ρ)) : Prop where
  ofCategory : registry.category = category
  underPolicy : registry.policy = policy
  rule? : ∀ kind, registry.rule? kind = (policy.standing? (·.kind) history kind).map (·.rule)
  once : (registry.rules.map (·.1)).Nodup

theorem stands_empty (category : Category) (policy : DuplicatePolicy) :
    (empty category policy : Registry κ ρ).Stands category policy [] where
  ofCategory := rfl
  underPolicy := rfl
  rule? _ := by cases policy <;> rfl
  once := List.nodup_nil

namespace Stands

theorem contains_iff (stands : registry.Stands category policy history) (kind : κ) :
    registry.contains kind = true ↔ ∃ earlier ∈ history, earlier.kind = kind := by
  unfold contains
  rw [stands.rule?, Option.isSome_map, Option.isSome_iff_exists, policy.exists_standing?_iff]

/-- An accepted rule stands for its kind, and all others stand as before. -/
theorem add (stands : registry.Stands category policy history)
    {registration : Registration κ ρ} {grown : Registry κ ρ} {events : List (Event κ)}
    (allowed : policy = .reject → ¬∃ earlier ∈ history, earlier.kind = registration.kind)
    (added : registry.add registration.kind registration.rule = .ok (grown, events)) :
    grown.Stands category policy (history ++ [registration]) := by
  obtain ⟨sameCategory, samePolicy⟩ := category_of_add added
  refine
    { ofCategory := sameCategory.trans stands.ofCategory
      underPolicy := samePolicy.trans stands.underPolicy
      rule? := ?_
      once := ?_ }
  · intro kind
    rw [rule?_of_add added, stands.rule?, DuplicatePolicy.standing?_append allowed]
    by_cases same : kind = registration.kind
    · rw [if_pos same, if_pos same, Option.map_some]
    · rw [if_neg same, if_neg same]
  · have kinds := map_fst_of_add added
    rw [kinds]
    by_cases member : registration.kind ∈ registry.rules.map (·.1)
    · rw [if_pos member]
      exact stands.once
    · rw [if_neg member]
      rw [← List.concat_eq_append]
      exact stands.once.concat member

theorem add_eq (stands : registry.Stands category policy history) (kind : κ) (rule : ρ) :
    registry.add kind rule =
      match Registration.refusal? category policy history kind with
      | some error => .error error
      | none =>
        .ok ({ registry with rules := bindRule kind rule registry.rules },
          (if ∃ earlier ∈ history, earlier.kind = kind then [.overwriting category kind] else [])
            ++ [.registered category kind]) := by
  unfold Registry.add Registration.refusal? announcements
  simp only [stands.ofCategory, stands.underPolicy, stands.contains_iff kind]
  by_cases foreign : Vocabulary.category kind ≠ category
  · rw [if_pos foreign, if_pos foreign]
  · rw [if_neg foreign, if_neg foreign]
    by_cases duplicate : policy = .reject ∧ ∃ earlier ∈ history, earlier.kind = kind
    · rw [if_pos duplicate.symm, if_pos duplicate]
    · rw [if_neg (mt And.symm duplicate), if_neg duplicate]

/-- A registration gets the same reply on both sides, and the rules go on standing. -/
theorem registration (stands : registry.Stands category policy history)
    (registration : Registration κ ρ) :
    (registration.onRegistry registry).1 = (registration.onHistory category policy history).1 ∧
      (registration.onRegistry registry).2.Stands category policy
        (registration.onHistory category policy history).2 := by
  have judged := stands.add_eq registration.kind registration.rule
  cases refused : Registration.refusal? category policy history registration.kind with
  | some error =>
      simp only [refused] at judged
      simp only [Registration.onRegistry, Registration.onHistory, judged, refused]
      exact ⟨trivial, stands⟩
  | none =>
      simp only [refused] at judged
      have accepted := stands.add (Registration.unknown_of_accepted refused) judged
      simp only [Registration.onRegistry, Registration.onHistory, judged, refused]
      exact ⟨trivial, accepted⟩

/-! ## Any number of registrations -/

theorem performAll (registrations : List (Registration κ ρ)) :
    ∀ {registry : Registry κ ρ} {history : List (Registration κ ρ)},
      registry.Stands category policy history →
        (Registration.performAll Registration.onRegistry registrations registry).1 =
            (Registration.performAll (Registration.onHistory category policy) registrations
              history).1 ∧
          (Registration.performAll Registration.onRegistry registrations registry).2.Stands
            category policy
            (Registration.performAll (Registration.onHistory category policy) registrations
              history).2 := by
  induction registrations with
  | nil =>
      intro registry history stands
      exact ⟨rfl, stands⟩
  | cons registration rest inductionHypothesis =>
      intro registry history stands
      obtain ⟨sameReply, next⟩ := stands.registration registration
      obtain ⟨sameReplies, last⟩ := inductionHypothesis next
      refine ⟨?_, last⟩
      simp only [Registration.performAll]
      rw [sameReply, sameReplies]

theorem records (stands : registry.Stands category policy history) :
    registry.Records category policy history := by
  have knownKinds : ∀ kind, kind ∈ registry.kinds ↔ ∃ earlier ∈ history, earlier.kind = kind :=
    fun kind => (registry.mem_kinds_iff kind).trans (stands.contains_iff kind)
  have once : registry.kinds.Nodup := registry.perm_kinds.nodup_iff.mpr stands.once
  have found : ∀ kind rule, registry.find kind = .ok rule ↔
      ∃ standing, policy.standing? (·.kind) history kind = some standing ∧
        standing.rule = rule := by
    intro kind rule
    rw [registry.find_eq_ok_iff, stands.rule?, Option.map_eq_some_iff]
  refine
    { ofCategory := stands.ofCategory
      underPolicy := stands.underPolicy
      found := ?_
      find := found
      contains := stands.contains_iff
      size := ?_
      isEmpty := ?_
      kinds := knownKinds
      kindsOnce := once
      kindsOrdered := registry.kinds_ordered
      kindsStrict := ?_ }
  · intro kind
    rw [← policy.exists_standing?_iff]
    simp only [found]
    grind
  · have sameKinds : registry.kinds.toFinset = (history.map (·.kind)).toFinset := by
      ext kind
      simp [knownKinds]
    rw [← sameKinds, List.toFinset_card_of_nodup once, registry.perm_kinds.length_eq,
      List.length_map]
    rfl
  · have empty : registry.rules = [] ↔ ∀ kind, kind ∉ registry.kinds := by
      simp only [registry.perm_kinds.mem_iff, ← List.eq_nil_iff_forall_not_mem, List.map_eq_nil_iff]
    unfold isEmpty
    rw [List.isEmpty_iff, empty]
    simp only [knownKinds]
    constructor
    · intro none
      exact List.eq_nil_iff_forall_not_mem.mpr fun earlier member =>
        none earlier.kind ⟨earlier, member, rfl⟩
    · rintro rfl kind ⟨earlier, member, -⟩
      contradiction
  · intro injective
    refine (registry.kinds_ordered.and once).imp ?_
    intro left right both
    exact String.not_le.mp fun reverse =>
      both.2 (injective (String.le_antisymm both.1 reverse))

end Stands

/-- A registry that begins empty refines its history through any registrations, be they of typed
rules or of rules under a chosen kind: it gives the replies of the history, and answers as the
history says after the last of them. -/
theorem refines_registrations (category : Category) (policy : DuplicatePolicy)
    (registrations : List (Registration κ ρ)) :
    (Registration.performAll Registration.onRegistry registrations
        (.empty category policy : Registry κ ρ)).1 =
        (Registration.performAll (Registration.onHistory category policy) registrations []).1 ∧
      (Registration.performAll Registration.onRegistry registrations
          (.empty category policy)).2.Records category policy
        (Registration.performAll (Registration.onHistory category policy) registrations []).2 := by
  obtain ⟨sameReplies, stands⟩ := Stands.performAll registrations (stands_empty category policy)
  exact ⟨sameReplies, stands.records⟩

end Registry

end Circuitry
