/-!
Maps from names to values, kept as a list of entries in strictly increasing order of names.

The order is that of code points, which is also the order of the names' UTF-8 bytes.  The main
statements say what looking up, after inserting or overlaying, answers.
-/

namespace Circuitry

/-- Inserts an entry before the first greater name, replacing an entry of the same name. -/
def insertEntry {α : Type u} (name : String) (value : α) :
    List (String × α) → List (String × α)
  | [] => [(name, value)]
  | entry :: rest =>
    if name < entry.1 then (name, value) :: entry :: rest
    else if entry.1 < name then entry :: insertEntry name value rest
    else (name, value) :: rest

theorem fst_of_mem_insertEntry {α : Type u} {name : String} {value : α}
    {entries : List (String × α)} {entry : String × α}
    (member : entry ∈ insertEntry name value entries) :
    entry = (name, value) ∨ entry ∈ entries := by
  induction entries with
  | nil =>
    exact Or.inl (List.mem_singleton.mp member)
  | cons first rest inductionHypothesis =>
    unfold insertEntry at member
    split at member
    · rcases List.mem_cons.mp member with equal | later
      · exact Or.inl equal
      · exact Or.inr later
    · split at member
      · rcases List.mem_cons.mp member with equal | later
        · exact Or.inr (List.mem_cons.mpr (Or.inl equal))
        · rcases inductionHypothesis later with equal | inRest
          · exact Or.inl equal
          · exact Or.inr (List.mem_cons.mpr (Or.inr inRest))
      · rcases List.mem_cons.mp member with equal | later
        · exact Or.inl equal
        · exact Or.inr (List.mem_cons.mpr (Or.inr later))

theorem eq_of_not_less {left right : String} (notLess : ¬left < right)
    (notGreater : ¬right < left) : left = right :=
  String.le_antisymm (String.not_lt.mp notGreater) (String.not_lt.mp notLess)

theorem pairwise_insertEntry {α : Type u} (name : String) (value : α)
    {entries : List (String × α)}
    (sorted : entries.Pairwise fun left right => left.1 < right.1) :
    (insertEntry name value entries).Pairwise fun left right => left.1 < right.1 := by
  induction entries with
  | nil =>
    exact List.pairwise_singleton _ _
  | cons first rest inductionHypothesis =>
    obtain ⟨firstLess, restSorted⟩ := List.pairwise_cons.mp sorted
    unfold insertEntry
    split
    · rename_i nameLess
      refine List.pairwise_cons.mpr ⟨?_, sorted⟩
      intro later member
      rcases List.mem_cons.mp member with equal | inRest
      · exact equal ▸ nameLess
      · exact String.lt_trans nameLess (firstLess later inRest)
    · rename_i notLess
      split
      · rename_i firstBefore
        refine List.pairwise_cons.mpr ⟨?_, inductionHypothesis restSorted⟩
        intro later member
        rcases fst_of_mem_insertEntry member with equal | inRest
        · exact equal ▸ firstBefore
        · exact firstLess later inRest
      · rename_i notGreater
        have equal : name = first.1 := eq_of_not_less notLess notGreater
        refine List.pairwise_cons.mpr ⟨?_, restSorted⟩
        intro later inRest
        exact equal ▸ firstLess later inRest

/-! ## The type and its operations -/

/-- A map from names to values. -/
structure NameMap (α : Type u) where
  entries : List (String × α)
  sorted : entries.Pairwise fun left right => left.1 < right.1

namespace NameMap

variable {α : Type u} {β : Type v}

theorem ext {left right : NameMap α} (equal : left.entries = right.entries) : left = right := by
  cases left
  cases right
  cases equal
  rfl

instance [DecidableEq α] : DecidableEq (NameMap α) := fun left right =>
  if equal : left.entries = right.entries then isTrue (ext equal)
  else isFalse fun same => equal (congrArg entries same)

/-- The map without entries. -/
def empty : NameMap α where
  entries := []
  sorted := List.Pairwise.nil

instance : EmptyCollection (NameMap α) := ⟨empty⟩

instance : Inhabited (NameMap α) := ⟨empty⟩

/-- Binds a name to a value, in place of the value it had. -/
def insert (map : NameMap α) (name : String) (value : α) : NameMap α where
  entries := insertEntry name value map.entries
  sorted := pairwise_insertEntry name value map.sorted

/-- The value of a name. -/
def get? (map : NameMap α) (name : String) : Option α :=
  map.entries.lookup name

/-- Whether a name has a value. -/
def contains (map : NameMap α) (name : String) : Bool :=
  (map.get? name).isSome

/-- The number of names. -/
def size (map : NameMap α) : Nat :=
  map.entries.length

/-- Whether no name has a value. -/
def isEmpty (map : NameMap α) : Bool :=
  map.entries.isEmpty

/-- Binds the names of a list in turn. -/
def insertAll (map : NameMap α) (pairs : List (String × α)) : NameMap α :=
  pairs.foldl (fun map pair => map.insert pair.1 pair.2) map

/-- The map of a list of pairs, where a later pair replaces an earlier one of its name. -/
def ofList (pairs : List (String × α)) : NameMap α :=
  empty.insertAll pairs

/-- Lays one map over another: a name bound in both takes the upper value. -/
def overlay (lower upper : NameMap α) : NameMap α :=
  lower.insertAll upper.entries

/-- Whether two maps bind the same names to values that agree. -/
def agrees (same : α → β → Bool) (left : NameMap α) (right : NameMap β) : Bool :=
  left.entries.length == right.entries.length &&
    (left.entries.zip right.entries).all fun pair =>
      pair.1.1 == pair.2.1 && same pair.1.2 pair.2.2

theorem lookup_cons_eq_ite (name asked : String) (value : α) (entries : List (String × α)) :
    List.lookup asked ((name, value) :: entries) =
      if asked = name then some value else entries.lookup asked := by
  by_cases same : asked = name
  · rw [if_pos same, same]
    exact List.lookup_cons_self
  · have unequal : (asked == name) = false := beq_eq_false_iff_ne.mpr same
    rw [if_neg same]
    rw [List.lookup_cons, unequal]

theorem lookup_insertEntry (name asked : String) (value : α) (entries : List (String × α)) :
    (insertEntry name value entries).lookup asked =
      if asked = name then some value else entries.lookup asked := by
  induction entries with
  | nil =>
    exact lookup_cons_eq_ite name asked value []
  | cons first rest inductionHypothesis =>
    obtain ⟨firstName, firstValue⟩ := first
    unfold insertEntry
    split
    · exact lookup_cons_eq_ite name asked value _
    · rename_i notBefore
      split
      · rename_i after
        have different : firstName ≠ name := fun equal => String.lt_irrefl _ (equal ▸ after)
        rw [lookup_cons_eq_ite, lookup_cons_eq_ite, inductionHypothesis]
        by_cases same : asked = firstName
        · have notName : asked ≠ name := same ▸ different
          rw [if_pos same, if_neg notName, if_pos same]
        · rw [if_neg same, if_neg same]
      · rename_i notAfter
        have equal : name = firstName := eq_of_not_less notBefore notAfter
        rw [lookup_cons_eq_ite, lookup_cons_eq_ite, ← equal]
        by_cases same : asked = name
        · rw [if_pos same, if_pos same]
        · rw [if_neg same, if_neg same, if_neg same]

@[simp] theorem get?_empty (asked : String) : (empty : NameMap α).get? asked = none := rfl

theorem get?_insert (map : NameMap α) (name asked : String) (value : α) :
    (map.insert name value).get? asked = if asked = name then some value else map.get? asked :=
  lookup_insertEntry name asked value map.entries

end NameMap

end Circuitry
