import Circuitry.Ledger

/-!
# Ledgers and their pairs

A ledger that comes from registrations and rollbacks is the ledger of a list of pairs, the newest
first, and no two of the pairs share a side.  Looking up then means searching that list, registering
means putting a pair in front of it, and rolling back means dropping pairs from its front.
-/

namespace Circuitry.Ledger

variable {α β : Type} [BEq α] [BEq β]

/-- No two pairs share a key or a value. -/
def Unshared (pairs : List (α × β)) : Prop :=
  pairs.Pairwise fun left right =>
    (left.1 == right.1) = false ∧ (left.2 == right.2) = false

/-- All three parts of the ledger list the same pairs, and no two of them share a side. -/
structure Consistent (ledger : Ledger α β) : Prop where
  listed : ledger = ofPairs ledger.forward
  unshared : Unshared ledger.forward

theorem consistent_empty : Consistent (empty : Ledger α β) :=
  ⟨rfl, List.Pairwise.nil⟩

theorem consistent_ofPairs
    {pairs : List (α × β)} (unshared : Unshared pairs) :
    Consistent (ofPairs pairs) :=
  ⟨rfl, unshared⟩

section Parts

variable {ledger : Ledger α β}

theorem Consistent.backward_eq (consistent : Consistent ledger) :
    ledger.backward = ledger.forward.map fun pair => (pair.2, pair.1) :=
  congrArg Ledger.backward consistent.listed

theorem Consistent.journal_eq (consistent : Consistent ledger) :
    ledger.journal = ledger.forward.map (·.1) :=
  congrArg Ledger.journal consistent.listed

theorem Consistent.checkpoint_eq (consistent : Consistent ledger) :
    ledger.checkpoint = ledger.size := by
  unfold checkpoint size
  rw [consistent.journal_eq, List.length_map]

end Parts

omit [BEq β] in
theorem exists_mem_of_lookup
    {pairs : List (α × β)} {key : α} {value : β}
    (found : pairs.lookup key = some value) :
    ∃ held ∈ pairs, (key == held.1) = true ∧ held.2 = value := by
  induction pairs with
  | nil =>
      simp at found
  | cons first rest inductionHypothesis =>
      rw [List.lookup_cons] at found
      cases same : key == first.1 with
      | true =>
          simp only [same, Option.some.injEq] at found
          exact ⟨first, List.mem_cons_self, same, found⟩
      | false =>
          simp only [same] at found
          obtain ⟨held, member, equality⟩ := inductionHypothesis found
          exact ⟨held, List.mem_cons_of_mem first member, equality⟩

omit [BEq β] in
theorem lookup_of_mem [PartialEquivBEq α]
    {pairs : List (α × β)}
    (distinct : pairs.Pairwise fun left right => (left.1 == right.1) = false)
    {key : α} {held : α × β} (member : held ∈ pairs)
    (same : (key == held.1) = true) :
    pairs.lookup key = some held.2 := by
  induction pairs with
  | nil =>
      cases member
  | cons first rest inductionHypothesis =>
      obtain ⟨firstDistinct, restDistinct⟩ := List.pairwise_cons.mp distinct
      rcases List.mem_cons.mp member with rfl | inRest
      · rw [List.lookup_cons, same]
      · have different : (key == first.1) = false := by
          cases sameFirst : key == first.1 with
          | false => rfl
          | true =>
              have together : (first.1 == held.1) = true :=
                PartialEquivBEq.trans (PartialEquivBEq.symm sameFirst) same
              rw [firstDistinct held inRest] at together
              contradiction
        rw [List.lookup_cons, different]
        exact inductionHypothesis restDistinct inRest

variable {ledger grown : Ledger α β}

theorem Consistent.valueOf?_eq_some_iff [PartialEquivBEq α]
    (consistent : Consistent ledger) (key : α) (value : β) :
    ledger.valueOf? key = some value ↔
      ∃ held ∈ ledger.forward, (key == held.1) = true ∧ held.2 = value := by
  constructor
  · intro found
    exact exists_mem_of_lookup found
  · rintro ⟨held, member, same, rfl⟩
    exact lookup_of_mem (consistent.unshared.imp fun apart => apart.1) member same

theorem Consistent.keyOf?_eq_some_iff [PartialEquivBEq β]
    (consistent : Consistent ledger) (value : β) (key : α) :
    ledger.keyOf? value = some key ↔
      ∃ held ∈ ledger.forward, (value == held.2) = true ∧ held.1 = key := by
  unfold keyOf?
  rw [consistent.backward_eq]
  constructor
  · intro found
    obtain ⟨turned, member, same, equality⟩ := exists_mem_of_lookup found
    obtain ⟨held, inForward, rfl⟩ := List.mem_map.mp member
    exact ⟨held, inForward, same, equality⟩
  · rintro ⟨held, member, same, rfl⟩
    have distinct :
        (ledger.forward.map fun pair => (pair.2, pair.1)).Pairwise
          fun left right => (left.1 == right.1) = false :=
      List.pairwise_map.mpr (consistent.unshared.imp fun apart => apart.2)
    exact lookup_of_mem distinct (List.mem_map.mpr ⟨held, member, rfl⟩) same

omit [BEq β] in
theorem valueOf?_eq_none_iff (key : α) :
    ledger.valueOf? key = none ↔ ∀ held ∈ ledger.forward, (key == held.1) = false := by
  unfold valueOf?
  simp only [List.lookup_eq_none_iff, bne, Bool.not_eq_true']

theorem Consistent.keyOf?_eq_none_iff
    (consistent : Consistent ledger) (value : β) :
    ledger.keyOf? value = none ↔ ∀ held ∈ ledger.forward, (value == held.2) = false := by
  unfold keyOf?
  rw [consistent.backward_eq]
  simp only [List.lookup_eq_none_iff, List.forall_mem_map, bne, Bool.not_eq_true']

/-- A pair is found from either of its sides. -/
theorem Consistent.valueOf?_of_keyOf? [EquivBEq α] [PartialEquivBEq β]
    (consistent : Consistent ledger) {key : α} {value : β}
    (found : ledger.keyOf? value = some key) :
    ∃ known, ledger.valueOf? key = some known ∧ (value == known) = true := by
  obtain ⟨held, member, same, rfl⟩ := (consistent.keyOf?_eq_some_iff value key).mp found
  exact ⟨held.2, (consistent.valueOf?_eq_some_iff held.1 held.2).mpr
    ⟨held, member, BEq.rfl, rfl⟩, same⟩

theorem Consistent.keyOf?_of_valueOf? [PartialEquivBEq α] [EquivBEq β]
    (consistent : Consistent ledger) {key : α} {value : β}
    (found : ledger.valueOf? key = some value) :
    ∃ holder, ledger.keyOf? value = some holder ∧ (key == holder) = true := by
  obtain ⟨held, member, same, rfl⟩ := (consistent.valueOf?_eq_some_iff key value).mp found
  exact ⟨held.1, (consistent.keyOf?_eq_some_iff held.2 held.1).mpr
    ⟨held, member, BEq.rfl, rfl⟩, same⟩

theorem register_eq_ok_iff (key : α) (value : β) :
    ledger.register key value = .ok grown ↔
      ledger.valueOf? key = none ∧ ledger.keyOf? value = none ∧
        grown =
          { forward := (key, value) :: ledger.forward
            backward := (value, key) :: ledger.backward
            journal := key :: ledger.journal } := by
  unfold register
  cases ledger.valueOf? key with
  | some existing => simp
  | none =>
      cases ledger.keyOf? value with
      | some holder => simp
      | none => simp [eq_comm]

/-- An accepted pair stands in front of the pairs that were there. -/
theorem Consistent.of_register
    (consistent : Consistent ledger) {key : α} {value : β}
    (accepted : ledger.register key value = .ok grown) :
    Consistent grown ∧ grown.forward = (key, value) :: ledger.forward := by
  obtain ⟨keyFree, valueFree, rfl⟩ := (register_eq_ok_iff key value).mp accepted
  have apart : ∀ held ∈ ledger.forward,
      (key == held.1) = false ∧ (value == held.2) = false := fun held member =>
    ⟨(valueOf?_eq_none_iff key).mp keyFree held member,
      (consistent.keyOf?_eq_none_iff value).mp valueFree held member⟩
  refine ⟨⟨?_, List.pairwise_cons.mpr ⟨apart, consistent.unshared⟩⟩, rfl⟩
  simp only [ofPairs, List.map_cons]
  rw [consistent.backward_eq, consistent.journal_eq]

theorem dropMany_ofPairs [ReflBEq α] [ReflBEq β] (newer pairs : List (α × β)) :
    dropMany newer.length (ofPairs (newer ++ pairs)) = (ofPairs pairs, newer.length) := by
  induction newer with
  | nil =>
      rfl
  | cons first rest inductionHypothesis =>
      simp only [List.length_cons, List.cons_append, dropMany, dropNewest_ofPairs,
        inductionHypothesis]
      rfl

/-- Rolling back to the checkpoint of older pairs drops exactly the newer ones. -/
theorem rollback_append [ReflBEq α] [ReflBEq β] (newer pairs : List (α × β)) :
    (ofPairs (newer ++ pairs)).rollback pairs.length = (ofPairs pairs, newer.length) := by
  have count : (ofPairs (newer ++ pairs)).journal.length - pairs.length = newer.length := by
    simp [ofPairs]
  unfold rollback
  rw [count]
  exact dropMany_ofPairs newer pairs

theorem rollback_ofPairs [ReflBEq α] [ReflBEq β] (pairs : List (α × β)) (mark : Nat) :
    (ofPairs pairs).rollback mark =
      (ofPairs (pairs.drop (pairs.length - mark)), pairs.length - mark) := by
  have count : (pairs.take (pairs.length - mark)).length = pairs.length - mark := by
    rw [List.length_take]
    omega
  have dropped :=
    dropMany_ofPairs (pairs.take (pairs.length - mark)) (pairs.drop (pairs.length - mark))
  rw [count, List.take_append_drop] at dropped
  unfold rollback
  simpa [ofPairs] using dropped

theorem forward_dropNewest_sublist (ledger : Ledger α β) :
    ledger.dropNewest.1.forward.Sublist ledger.forward := by
  unfold dropNewest
  split
  · exact List.Sublist.refl _
  · split
    · exact List.eraseP_sublist
    · exact List.Sublist.refl _

theorem forward_dropMany_sublist (count : Nat) :
    ∀ ledger : Ledger α β, (dropMany count ledger).1.forward.Sublist ledger.forward := by
  induction count with
  | zero =>
      intro ledger
      exact List.Sublist.refl _
  | succ count inductionHypothesis =>
      intro ledger
      exact (inductionHypothesis ledger.dropNewest.1).trans ledger.forward_dropNewest_sublist

theorem valueOf?_rollback_eq_none {ledger : Ledger α β} {key : α}
    (missing : ledger.valueOf? key = none) (mark : Nat) :
    (ledger.rollback mark).1.valueOf? key = none := by
  have fewer : (ledger.rollback mark).1.forward.Sublist ledger.forward :=
    forward_dropMany_sublist _ ledger
  rw [valueOf?_eq_none_iff] at missing ⊢
  intro held member
  exact missing held (fewer.subset member)

/-- The later ledger gives every answer of the earlier one, and its journal goes on from there. -/
structure Keeps (ledger later : Ledger α β) : Prop where
  valueOf : ∀ key value, ledger.valueOf? key = some value → later.valueOf? key = some value
  keyOf : ∀ value key, ledger.keyOf? value = some key → later.keyOf? value = some key
  journal : ledger.journal <:+ later.journal

/-- From a consistent ledger comes a consistent one with the same pairs behind newer ones. -/
def Grows (ledger later : Ledger α β) : Prop :=
  Consistent ledger → Consistent later ∧ ledger.forward <:+ later.forward

namespace Grows

variable {ledger middle later : Ledger α β}

theorem refl (ledger : Ledger α β) : Grows ledger ledger := fun consistent =>
  ⟨consistent, List.suffix_rfl⟩

theorem trans (first : Grows ledger middle) (second : Grows middle later) :
    Grows ledger later := by
  intro consistent
  obtain ⟨middleConsistent, older⟩ := first consistent
  obtain ⟨laterConsistent, newer⟩ := second middleConsistent
  exact ⟨laterConsistent, older.trans newer⟩

theorem of_register {key : α} {value : β}
    (accepted : ledger.register key value = .ok later) : Grows ledger later := by
  intro consistent
  obtain ⟨laterConsistent, forward⟩ := consistent.of_register accepted
  exact ⟨laterConsistent, forward ▸ List.suffix_cons (key, value) ledger.forward⟩

theorem keeps [PartialEquivBEq α] [PartialEquivBEq β]
    (grows : Grows ledger later) (consistent : Consistent ledger) : Keeps ledger later := by
  obtain ⟨laterConsistent, older⟩ := grows consistent
  refine ⟨?_, ?_, ?_⟩
  · intro key value found
    obtain ⟨held, member, side⟩ := (consistent.valueOf?_eq_some_iff key value).mp found
    exact (laterConsistent.valueOf?_eq_some_iff key value).mpr
      ⟨held, older.subset member, side⟩
  · intro value key found
    obtain ⟨held, member, side⟩ := (consistent.keyOf?_eq_some_iff value key).mp found
    exact (laterConsistent.keyOf?_eq_some_iff value key).mpr
      ⟨held, older.subset member, side⟩
  · rw [consistent.journal_eq, laterConsistent.journal_eq]
    exact older.map (·.1)

/-- Rolling a grown ledger back to the old checkpoint gives the old ledger, part by part. -/
theorem rollback [ReflBEq α] [ReflBEq β]
    (grows : Grows ledger later) (consistent : Consistent ledger) :
    later.rollback ledger.checkpoint = (ledger, later.size - ledger.size) := by
  obtain ⟨laterConsistent, newer, split⟩ := grows consistent
  have mark : ledger.checkpoint = ledger.forward.length := consistent.checkpoint_eq
  have count : later.size - ledger.size = newer.length := by
    unfold size
    rw [← split, List.length_append]
    omega
  rw [count, laterConsistent.listed, ← split, mark, rollback_append, ← consistent.listed]

end Grows

end Circuitry.Ledger
