import Circuitry.Catalogue.Kind
import Circuitry.Proofs.Compiler.Slots

/-!
# The nearest ancestor with a rule

A kind without a rule is reported together with the nearest of its declared supertypes that has one.
The chain of supertypes may have any length, lead through other categories, or come back to a kind
that it has passed before; it is followed for sixty-four steps.
-/

namespace Circuitry

variable {κ : Type} [Vocabulary κ]

namespace Vocabulary

/-- The kind that so many declared supertypes lead to. -/
def ancestor? (kind : κ) : Nat → Option κ
  | 0 => some kind
  | steps + 1 => (ancestor? kind steps).bind supertype

/-- The first supertype may be followed before the others. -/
theorem ancestor?_succ (kind : κ) (steps : Nat) :
    ancestor? kind (steps + 1) =
      (supertype kind).bind fun parent => ancestor? parent steps := by
  induction steps with
  | zero =>
      change (some kind).bind supertype = (supertype kind).bind some
      rw [Option.bind_some, Option.bind_fun_some]
  | succ steps inductionHypothesis =>
      change (ancestor? kind (steps + 1)).bind supertype = _
      rw [inductionHypothesis, Option.bind_assoc]
      rfl

theorem getElem?_ancestorsWithin (limit : Nat) :
    ∀ (kind : κ) (index : Nat), (ancestorsWithin limit kind)[index]? =
      if index < limit then ancestor? kind (index + 1) else none := by
  induction limit with
  | zero => exact fun kind index => rfl
  | succ limit inductionHypothesis =>
      intro kind index
      rw [ancestorsWithin, ancestor?_succ]
      cases supertype kind with
      | none => simp
      | some parent =>
          cases index with
          | zero => simp [ancestor?]
          | succ index =>
              simp only [List.getElem?_cons_succ, inductionHypothesis, Nat.add_lt_add_iff_right,
                Option.bind_some]

theorem getElem?_ancestors (kind ancestor : κ) (index : Nat) :
    (ancestors kind)[index]? = some ancestor ↔
      index < 64 ∧ ancestor? kind (index + 1) = some ancestor := by
  rw [ancestors, getElem?_ancestorsWithin, ancestorLimit]
  split
  · next within => simp [within]
  · next beyond => simp [beyond]

end Vocabulary

namespace Registry

variable {ρ : Type u}

/-- So many supertypes lead from a kind to a parent with a rule, at most sixty-four, and fewer of
them lead to no kind with a rule. -/
structure Nearest (registry : Registry κ ρ) (kind parent : κ) (steps : Nat) : Prop where
  positive : 0 < steps
  within : steps ≤ 64
  ancestor : Vocabulary.ancestor? kind steps = some parent
  known : registry.contains parent = true
  first : ∀ fewer < steps, 0 < fewer →
    ∀ nearer ∈ Vocabulary.ancestor? kind fewer, registry.contains nearer = false

theorem find?_ancestors_eq_some_iff (registry : Registry κ ρ) (kind parent : κ) :
    (Vocabulary.ancestors kind).find? (fun ancestor => registry.contains ancestor) =
        some parent ↔
      ∃ steps, registry.Nearest kind parent steps := by
  rw [List.find?_eq_some_iff_getElem]
  constructor
  · rintro ⟨known, index, inside, atIndex, before⟩
    obtain ⟨within, ancestor⟩ := (Vocabulary.getElem?_ancestors kind parent index).mp
      (List.getElem?_eq_some_iff.mpr ⟨inside, atIndex⟩)
    refine ⟨index + 1, Nat.succ_pos index, within, ancestor, known, ?_⟩
    intro fewer fewerThan positive nearer isNearer
    obtain ⟨earlier, rfl⟩ := Nat.exists_eq_add_one.mpr positive
    have earlierThan : earlier < index := Nat.lt_of_succ_lt_succ fewerThan
    obtain ⟨earlierInside, atEarlier⟩ := List.getElem?_eq_some_iff.mp
      ((Vocabulary.getElem?_ancestors kind nearer earlier).mpr
        ⟨Nat.lt_trans earlierThan within, isNearer⟩)
    have unknown := before earlier earlierThan
    rwa [atEarlier, Bool.not_eq_true'] at unknown
  · rintro ⟨steps, nearest⟩
    obtain ⟨index, rfl⟩ := Nat.exists_eq_add_one.mpr nearest.positive
    obtain ⟨inside, atIndex⟩ := List.getElem?_eq_some_iff.mp
      ((Vocabulary.getElem?_ancestors kind parent index).mpr ⟨nearest.within, nearest.ancestor⟩)
    refine ⟨nearest.known, index, inside, atIndex, ?_⟩
    intro earlier earlierThan
    obtain ⟨-, isAncestor⟩ := (Vocabulary.getElem?_ancestors kind _ earlier).mp
      (List.getElem?_eq_getElem (Nat.lt_trans earlierThan inside))
    rw [Bool.not_eq_true']
    exact nearest.first (earlier + 1) (Nat.succ_lt_succ earlierThan) (Nat.succ_pos earlier) _
      isAncestor

theorem find?_ancestors_eq_none_iff (registry : Registry κ ρ) (kind : κ) :
    (Vocabulary.ancestors kind).find? (fun ancestor => registry.contains ancestor) = none ↔
      ∀ steps ≤ 64, 0 < steps →
        ∀ ancestor ∈ Vocabulary.ancestor? kind steps, registry.contains ancestor = false := by
  simp only [List.find?_eq_none, Bool.not_eq_true, List.mem_iff_getElem?,
    Vocabulary.getElem?_ancestors]
  constructor
  · intro unknown steps within positive ancestor isAncestor
    obtain ⟨index, rfl⟩ := Nat.exists_eq_add_one.mpr positive
    exact unknown ancestor ⟨index, within, isAncestor⟩
  · rintro unknown ancestor ⟨index, within, isAncestor⟩
    exact unknown (index + 1) within (Nat.succ_pos index) ancestor isAncestor

/-- Asking for the rule of a kind without one always ends in an error, which names the nearest of
the first sixty-four declared ancestors with a rule, and none when no rule is registered for any of
them.  The kind itself is never named, nor is a kind of another category than the registry's. -/
theorem find_names_nearest {registry : Registry κ ρ} (filled : registry.Filled) {kind : κ}
    (unknown : registry.contains kind = false) :
    ∃ nearest, registry.find kind = .error (.missing registry.category kind nearest) ∧
      (∀ parent, nearest = some parent ↔ ∃ steps, registry.Nearest kind parent steps) ∧
      (nearest = none ↔ ∀ steps ≤ 64, 0 < steps →
        ∀ ancestor ∈ Vocabulary.ancestor? kind steps, registry.contains ancestor = false) ∧
      ∀ parent ∈ nearest, parent ≠ kind ∧ Vocabulary.category parent = registry.category := by
  have noRule : registry.rule? kind = none := by
    simpa [contains] using unknown
  refine ⟨_, by rw [find, noRule], registry.find?_ancestors_eq_some_iff kind,
    registry.find?_ancestors_eq_none_iff kind, ?_⟩
  intro parent named
  obtain ⟨steps, nearest⟩ := (registry.find?_ancestors_eq_some_iff kind parent).mp named
  constructor
  · rintro rfl
    exact absurd nearest.known (unknown ▸ Bool.false_ne_true)
  · exact (filled.ofCategory rfl).kinds parent ((registry.mem_kinds_iff parent).mpr nearest.known)

namespace Chained

/-- The end of a long chain has a rule, and so has one of two kinds that are each other's
supertype. -/
def registrations : List (Registration Kind Unit) :=
  [⟨.chain 1, ()⟩, ⟨.cycleA, ()⟩]

abbrev registry : Registry Kind Unit :=
  (Registration.performAll Registration.onRegistry registrations (.empty .layer .reject)).2

end Chained

/-- The sixty-fourth ancestor is named, the sixty-fifth is not; a cycle is followed, and from a kind
that is its own supertype nothing is found. -/
theorem find_names_nearest_chained :
    Chained.registry.find (.chain 65) =
        .error (.missing .layer (.chain 65) (some (.chain 1))) ∧
      Chained.registry.find (.chain 66) = .error (.missing .layer (.chain 66) none) ∧
      Chained.registry.find .cycleB = .error (.missing .layer .cycleB (some .cycleA)) ∧
      Chained.registry.find .selfCycle = .error (.missing .layer .selfCycle none) := by
  have filled : Chained.registry.Filled := ⟨.layer, .reject, Chained.registrations, rfl⟩
  have named : ∀ kind parent steps, Chained.registry.contains kind = false →
      Chained.registry.Nearest kind parent steps →
        Chained.registry.find kind = .error (.missing .layer kind (some parent)) := by
    intro kind parent steps unknown nearest
    obtain ⟨found, missing, isNearest, -, -⟩ := find_names_nearest filled unknown
    rw [missing, (isNearest parent).mpr ⟨steps, nearest⟩]
    rfl
  have unnamed : ∀ kind, Chained.registry.contains kind = false →
      (∀ steps ≤ 64, 0 < steps →
        ∀ ancestor ∈ Vocabulary.ancestor? kind steps,
          Chained.registry.contains ancestor = false) →
        Chained.registry.find kind = .error (.missing .layer kind none) := by
    intro kind unknown noneKnown
    obtain ⟨found, missing, -, isNone, -⟩ := find_names_nearest filled unknown
    rw [missing, isNone.mpr noneKnown]
    rfl
  refine ⟨?_, ?_, ?_, ?_⟩
  · exact named _ _ 64 (by decide)
      { positive := by decide, within := by decide, ancestor := by decide, known := by decide
        first := by decide +kernel }
  · exact unnamed _ (by decide) (by decide +kernel)
  · exact named _ _ 1 (by decide)
      { positive := by decide, within := by decide, ancestor := by decide, known := by decide
        first := by decide }
  · exact unnamed _ (by decide) (by decide +kernel)

end Registry

end Circuitry
