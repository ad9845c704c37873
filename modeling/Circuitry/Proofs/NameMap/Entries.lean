import Circuitry.Proofs.Ledger.Pairs
import Circuitry.Proofs.NameMap.Last
import Mathlib.Data.List.Sort

/-!
# The entries of a map

A map has one entry for each of its names, so looking a name up finds its entry, and maps that give
every name the same value are equal.
-/

namespace Circuitry

variable {α : Type}

theorem mem_of_lastOf {name : String} {value : α} {pairs : List (String × α)}
    (last : lastOf name pairs = some value) : (name, value) ∈ pairs := by
  obtain ⟨before, after, split, -⟩ := List.lookup_eq_some_iff.mp last
  refine List.mem_reverse.mp ?_
  rw [split]
  exact List.mem_append_right before List.mem_cons_self

namespace NameMap

theorem distinct_entries (map : NameMap α) :
    map.entries.Pairwise fun left right => (left.1 == right.1) = false := by
  refine map.sorted.imp fun {left right} smaller => beq_eq_false_iff_ne.mpr fun same => ?_
  exact String.lt_irrefl right.1 (same ▸ smaller)

theorem get?_eq_some_iff (map : NameMap α) (name : String) (value : α) :
    map.get? name = some value ↔ (name, value) ∈ map.entries := by
  constructor
  · intro found
    obtain ⟨before, after, split, -⟩ := List.lookup_eq_some_iff.mp found
    rw [split]
    exact List.mem_append_right before List.mem_cons_self
  · intro member
    exact Ledger.lookup_of_mem map.distinct_entries member BEq.rfl

theorem nodup_names (map : NameMap α) : (map.entries.map (·.1)).Nodup := by
  refine List.pairwise_map.mpr (map.sorted.imp fun {left right} smaller same => ?_)
  exact String.lt_irrefl right.1 (same ▸ smaller)

theorem nodup_entries (map : NameMap α) : map.entries.Nodup :=
  map.nodup_names.of_map _

theorem mem_names_iff (map : NameMap α) (name : String) :
    name ∈ map.entries.map (·.1) ↔ ∃ value, map.get? name = some value := by
  simp only [get?_eq_some_iff, List.mem_map, Prod.exists, exists_and_right, exists_eq_right]

/-- Maps that give every name the same value are equal: they have the same entries, and in the same
order, since both are sorted. -/
theorem ext_get? {left right : NameMap α} (same : ∀ name, left.get? name = right.get? name) :
    left = right := by
  have together : left.entries.Perm right.entries :=
    (List.perm_ext_iff_of_nodup left.nodup_entries right.nodup_entries).mpr fun entry => by
      rw [← get?_eq_some_iff, ← get?_eq_some_iff, same]
  refine ext (together.eq_of_pairwise ?_ left.sorted right.sorted)
  intro first second _ _ smaller larger
  exact absurd (String.lt_trans smaller larger) (String.lt_irrefl _)

theorem lastOf_entries (map : NameMap α) (name : String) :
    lastOf name map.entries = map.get? name := by
  have distinctBackwards : map.entries.reverse.Pairwise fun left right =>
      (left.1 == right.1) = false :=
    List.pairwise_reverse.mpr (map.distinct_entries.imp fun different => BEq.comm.trans different)
  ext value
  rw [get?_eq_some_iff]
  constructor
  · exact mem_of_lastOf
  · intro member
    exact Ledger.lookup_of_mem distinctBackwards (List.mem_reverse.mpr member) BEq.rfl

theorem ofList_entries (map : NameMap α) : ofList map.entries = map := by
  refine ext_get? fun name => ?_
  rw [get?_ofList, lastOf_entries]

theorem get?_overlay (lower upper : NameMap α) (name : String) :
    (lower.overlay upper).get? name = (upper.get? name).or (lower.get? name) := by
  rw [overlay, get?_insertAll, lastOf_entries]

theorem overlay_ofList (lower : NameMap α) (pairs : List (String × α)) :
    lower.overlay (ofList pairs) = lower.insertAll pairs := by
  refine ext_get? fun name => ?_
  rw [get?_overlay, get?_insertAll, get?_ofList]

theorem ofList_append (lower upper : List (String × α)) :
    ofList (lower ++ upper) = (ofList lower).overlay (ofList upper) := by
  rw [overlay_ofList]
  exact List.foldl_append

theorem overlay_assoc (lower middle upper : NameMap α) :
    (lower.overlay middle).overlay upper = lower.overlay (middle.overlay upper) := by
  refine ext_get? fun name => ?_
  simp only [get?_overlay, Option.or_assoc]

theorem empty_overlay (map : NameMap α) : empty.overlay map = map :=
  ofList_entries map

theorem overlay_empty (map : NameMap α) : map.overlay empty = map := rfl

theorem ofList_concat (pairs : List (String × α)) (name : String) (value : α) :
    ofList (pairs ++ [(name, value)]) = (ofList pairs).insert name value := by
  rw [ofList, insertAll, List.foldl_append]
  rfl

end NameMap

end Circuitry
