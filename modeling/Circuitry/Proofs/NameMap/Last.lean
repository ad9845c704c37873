import Circuitry.NameMap
import Mathlib.Data.List.Forall2

/-!
# The last value of a name

When pairs are bound in turn, a name has the value of its last pair.  A list looked up from its end
gives that value, and the only value when the name occurs once.
-/

namespace Circuitry

variable {α : Type u} {β : Type v}

/-- The value of the last pair of a name. -/
def lastOf (name : String) (pairs : List (String × α)) : Option α :=
  pairs.reverse.lookup name

theorem lastOf_cons (asked : String) (first : String × α) (rest : List (String × α)) :
    lastOf asked (first :: rest) =
      (lastOf asked rest).or (if asked = first.1 then some first.2 else none) := by
  unfold lastOf
  rw [List.reverse_cons, List.lookup_append, NameMap.lookup_cons_eq_ite, List.lookup_nil]

theorem lastOf_eq_none_iff {name : String} {pairs : List (String × α)} :
    lastOf name pairs = none ↔ name ∉ pairs.map (·.1) := by
  induction pairs with
  | nil => simp [lastOf]
  | cons first rest inductionHypothesis =>
      rw [lastOf_cons, Option.or_eq_none_iff, inductionHypothesis, List.map_cons, List.mem_cons,
        not_or, and_comm]
      simp

theorem lastOf_eq_some_iff {name : String} {value : α} {pairs : List (String × α)} :
    lastOf name pairs = some value ↔
      ∃ earlier later, pairs = earlier ++ (name, value) :: later ∧
        ∀ pair ∈ later, pair.1 ≠ name := by
  unfold lastOf
  rw [List.lookup_eq_some_iff]
  constructor
  · rintro ⟨later, earlier, split, others⟩
    refine ⟨earlier.reverse, later.reverse, ?_, ?_⟩
    · rw [← List.reverse_reverse pairs, split]
      simp
    · intro pair member
      exact (bne_iff_ne.mp (others pair (List.mem_reverse.mp member))).symm
  · rintro ⟨earlier, later, rfl, others⟩
    refine ⟨later.reverse, earlier.reverse, by simp, ?_⟩
    intro pair member
    exact bne_iff_ne.mpr (others pair (List.mem_reverse.mp member)).symm

theorem lastOf_of_count {name : String} {value : α} {pairs : List (String × α)}
    (member : (name, value) ∈ pairs) (once : (pairs.map (·.1)).count name = 1) :
    lastOf name pairs = some value := by
  induction pairs with
  | nil => contradiction
  | cons first rest inductionHypothesis =>
      rw [lastOf_cons]
      rw [List.map_cons, List.count_cons] at once
      rcases List.mem_cons.mp member with rfl | inRest
      · have absent : name ∉ rest.map (·.1) := by
          simpa [List.count_eq_zero] using once
        rw [lastOf_eq_none_iff.mpr absent, if_pos rfl, Option.none_or]
      · have occurs : 0 < (rest.map (·.1)).count name :=
          List.count_pos_iff.mpr (List.mem_map.mpr ⟨_, inRest, rfl⟩)
        have onceInRest : (rest.map (·.1)).count name = 1 := by
          split at once <;> omega
        rw [inductionHypothesis inRest onceInRest, Option.some_or]

theorem lookup_eq_none_iff_lastOf {name : String} {pairs : List (String × α)} :
    pairs.lookup name = none ↔ lastOf name pairs = none := by
  rw [lastOf_eq_none_iff, List.lookup_eq_none_iff]
  constructor
  · intro unequal member
    obtain ⟨pair, inPairs, rfl⟩ := List.mem_map.mp member
    simpa using unequal pair inPairs
  · intro absent pair inPairs
    rw [bne_iff_ne]
    rintro rfl
    exact absent (List.mem_map_of_mem inPairs)

theorem lookup_eq_lastOf {name : String} {pairs : List (String × α)}
    (once : (pairs.map (·.1)).count name ≤ 1) : pairs.lookup name = lastOf name pairs := by
  cases found : pairs.lookup name with
  | none => exact (lookup_eq_none_iff_lastOf.mp found).symm
  | some value =>
      obtain ⟨earlier, later, split, -⟩ := List.lookup_eq_some_iff.mp found
      have member : (name, value) ∈ pairs :=
        split ▸ List.mem_append_right earlier List.mem_cons_self
      have occurs : 0 < (pairs.map (·.1)).count name :=
        List.count_pos_iff.mpr (List.mem_map_of_mem member)
      exact (lastOf_of_count member (by omega)).symm

/-- Lists that give the same names to related values have related last values. -/
theorem lastOf_related {relation : α → β → Prop} {pairs : List (String × α)}
    {images : List (String × β)}
    (related : List.Forall₂ (fun pair image => image.1 = pair.1 ∧ relation pair.2 image.2)
      pairs images) (name : String) :
    Option.Rel relation (lastOf name pairs) (lastOf name images) := by
  induction related with
  | nil => exact .none
  | @cons pair image pairs images both _ inductionHypothesis =>
      rw [lastOf_cons, lastOf_cons, both.1]
      generalize lastOf name pairs = value, lastOf name images = imageValue at inductionHypothesis ⊢
      cases inductionHypothesis with
      | some values => exact .some values
      | none =>
          rw [Option.none_or, Option.none_or]
          split
          · exact .some both.2
          · exact .none

/-- A map of values that are related to the last ones has exactly their names. -/
theorem NameMap.contains_iff_of_related {relation : α → β → Prop} {pairs : List (String × α)}
    {map : NameMap β} {name : String}
    (related : Option.Rel relation (lastOf name pairs) (map.get? name)) :
    map.contains name = true ↔ name ∈ pairs.map (·.1) := by
  have absent := (lastOf_eq_none_iff : lastOf name pairs = none ↔ name ∉ pairs.map (·.1))
  unfold NameMap.contains
  generalize lastOf name pairs = value, map.get? name = image at related absent ⊢
  cases related with
  | some values => simpa using absent
  | none => simpa using absent

theorem NameMap.get?_of_related_once {relation : α → β → Prop} {pairs : List (String × α)}
    {map : NameMap β} {name : String} {value : α}
    (related : Option.Rel relation (lastOf name pairs) (map.get? name))
    (member : (name, value) ∈ pairs) (once : (pairs.map (·.1)).count name = 1) :
    ∃ image, map.get? name = some image ∧ relation value image := by
  rw [lastOf_of_count member once] at related
  generalize map.get? name = found at related ⊢
  cases related with
  | some values => exact ⟨_, rfl, values⟩

theorem NameMap.get?_insertAll (map : NameMap α) (pairs : List (String × α)) (name : String) :
    (map.insertAll pairs).get? name = (lastOf name pairs).or (map.get? name) := by
  induction pairs generalizing map with
  | nil => rfl
  | cons first rest inductionHypothesis =>
      change ((map.insert first.1 first.2).insertAll rest).get? name = _
      rw [inductionHypothesis, NameMap.get?_insert, lastOf_cons]
      cases lastOf name rest with
      | some value => rfl
      | none =>
          rw [Option.none_or, Option.none_or]
          split <;> rfl

theorem NameMap.get?_ofList (pairs : List (String × α)) (name : String) :
    (NameMap.ofList pairs).get? name = lastOf name pairs := by
  unfold NameMap.ofList
  rw [NameMap.get?_insertAll, NameMap.get?_empty, Option.or_none]

end Circuitry
