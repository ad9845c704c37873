/-!
Ledgers: two-way maps between keys and values that can be rolled back.

A pair is registered only if neither side occurs, so the map is one-to-one.  The keys are kept in
the order of registration; a checkpoint is the number of pairs at some moment, and rolling back to
it drops the pairs registered since, newest first.
-/

namespace Circuitry

/-- A one-to-one map between keys and values with a journal of registrations. -/
structure Ledger (α β : Type) where
  forward : List (α × β) := []
  backward : List (β × α) := []
  /-- The registered keys, newest first. -/
  journal : List α := []

/-- Why a pair cannot be registered. -/
inductive LedgerConflict (α β : Type)
  | keyTaken (existing : β)
  | valueTaken (holder : α)

namespace Ledger

variable {α β : Type} [BEq α] [BEq β]

/-- The ledger without pairs. -/
def empty : Ledger α β where

/-- The value registered for a key. -/
def valueOf? (ledger : Ledger α β) (key : α) : Option β :=
  ledger.forward.lookup key

/-- The key that a value is registered for. -/
def keyOf? (ledger : Ledger α β) (value : β) : Option α :=
  ledger.backward.lookup value

/-- Whether a key is registered. -/
def hasKey (ledger : Ledger α β) (key : α) : Bool :=
  (ledger.valueOf? key).isSome

/-- Whether a value is registered. -/
def hasValue (ledger : Ledger α β) (value : β) : Bool :=
  (ledger.keyOf? value).isSome

/-- The number of pairs. -/
def size (ledger : Ledger α β) : Nat :=
  ledger.forward.length

/-- Whether there are no pairs. -/
def isEmpty (ledger : Ledger α β) : Bool :=
  ledger.forward.isEmpty

/-- Registers a pair if neither side occurs. -/
def register (ledger : Ledger α β) (key : α) (value : β) :
    Except (LedgerConflict α β) (Ledger α β) :=
  match ledger.valueOf? key with
  | some existing => .error (.keyTaken existing)
  | none =>
    match ledger.keyOf? value with
    | some holder => .error (.valueTaken holder)
    | none =>
      .ok {
        forward := (key, value) :: ledger.forward
        backward := (value, key) :: ledger.backward
        journal := key :: ledger.journal }

/-- The mark to which later registrations can be rolled back. -/
def checkpoint (ledger : Ledger α β) : Nat :=
  ledger.journal.length

/-- Drops the pair of the newest key; tells whether there was one. -/
def dropNewest (ledger : Ledger α β) : Ledger α β × Bool :=
  match ledger.journal with
  | [] => (ledger, false)
  | key :: older =>
    match ledger.valueOf? key with
    | some value =>
      ({ forward := ledger.forward.eraseP fun pair => pair.1 == key
         backward := ledger.backward.eraseP fun pair => pair.1 == value
         journal := older }, true)
    | none => ({ ledger with journal := older }, false)

/-- Drops the pairs of a number of newest keys; gives how many there were. -/
def dropMany : Nat → Ledger α β → Ledger α β × Nat
  | 0, ledger => (ledger, 0)
  | count + 1, ledger =>
    let (dropped, removed) := ledger.dropNewest
    let (final, others) := dropMany count dropped
    (final, others + removed.toNat)

/-- Drops the pairs registered after a checkpoint; gives how many there were. -/
def rollback (ledger : Ledger α β) (checkpoint : Nat) : Ledger α β × Nat :=
  dropMany (ledger.journal.length - checkpoint) ledger

/-! ## Ledgers as lists of pairs -/

/-- The ledger that holds pairs, the newest first. -/
def ofPairs (pairs : List (α × β)) : Ledger α β where
  forward := pairs
  backward := pairs.map fun pair => (pair.2, pair.1)
  journal := pairs.map (·.1)

theorem rollback_self (ledger : Ledger α β) : ledger.rollback ledger.checkpoint = (ledger, 0) := by
  unfold rollback checkpoint
  rw [Nat.sub_self]
  rfl

theorem dropNewest_ofPairs [ReflBEq α] [ReflBEq β] (pair : α × β) (pairs : List (α × β)) :
    (ofPairs (pair :: pairs)).dropNewest = (ofPairs pairs, true) := by
  have found : (ofPairs (pair :: pairs)).valueOf? pair.1 = some pair.2 :=
    List.lookup_cons_self
  unfold dropNewest
  simp only [ofPairs, List.map_cons] at found ⊢
  rw [found]
  simp

end Ledger

end Circuitry
