import Circuitry.Proofs.Flag.Json
import Circuitry.Proofs.Flag.Settings
import Circuitry.Proofs.Json.Layout

/-!
# Flags from settings are saved and loaded

A finite number is saved as a text that the reader takes as a floating-point number, though not
always as the same one, and the other values are read as they are.  What is infinite or no number is
saved as null, which the reader refuses.  Flags from settings are therefore loaded with the same
names and the same types exactly when every floating-point number that the settings bind is finite.
-/

namespace Circuitry

namespace FlagValue

/-- The value is no floating-point number, or a finite one. -/
def IsFinite : FlagValue → Prop
  | .float value => value.IsFinite
  | _ => True

instance : DecidablePred IsFinite
  | .float value => inferInstanceAs (Decidable value.IsFinite)
  | .bool _ | .int _ | .text _ => inferInstanceAs (Decidable True)

theorem exists_readsAs_float {value : Binary64} (finite : value.IsFinite) :
    ∃ image, (float value).ReadsAs (.float image) := by
  obtain ⟨wellFormed, image, imageIs⟩ := Binary64.exists_value_savedText finite
  refine ⟨image, fun rest ends => ?_⟩
  obtain ⟨first, others, parts, starts⟩ := wellFormed.exists_written
  have read := Json.readNumber_written wellFormed imageIs ends.endsNumber
  rw [parts, List.cons_append] at read
  rw [toJson, Binary64.toList_write_saved finite, parts, List.cons_append,
    Json.skipSpaces_number starts, Json.readScalar_number starts, read]
  rfl

theorem exists_readsAs {value : FlagValue} (finite : value.IsFinite) :
    ∃ image, value.ReadsAs image ∧ image.type = value.type := by
  cases value with
  | float value =>
      obtain ⟨image, reads⟩ := exists_readsAs_float finite
      exact ⟨.float image, reads, rfl⟩
  | bool value => exact ⟨.bool value, readsAs_bool value, rfl⟩
  | int value => exact ⟨.int value, readsAs_int value, rfl⟩
  | text value => exact ⟨.text value, readsAs_text value, rfl⟩

theorem toJson_of_not_finite {value : FlagValue} (infinite : ¬value.IsFinite) :
    value.toJson = ['n', 'u', 'l', 'l'] := by
  cases value with
  | float value =>
      have beyond : Binary64.infiniteMagnitude ≤ value.magnitude := Nat.not_lt.mp infinite
      rw [toJson, Layout.write]
      by_cases isNaN : value.isNaN = true
      · rw [if_pos isNaN]
        rfl
      · have isInfinite : value.isInfinite = true := by
          have notAbove : value.magnitude ≤ Binary64.infiniteMagnitude := by
            simpa [Binary64.isNaN] using isNaN
          exact beq_iff_eq.mpr (Nat.le_antisymm notAbove beyond)
        rw [if_neg isNaN, if_pos isInfinite]
        split <;> rfl
  | bool value => exact absurd trivial infinite
  | int value => exact absurd trivial infinite
  | text value => exact absurd trivial infinite

theorem readScalar_of_not_finite {value : FlagValue} (infinite : ¬value.IsFinite)
    (rest : List Char) : Json.readScalar (Json.skipSpaces (value.toJson ++ rest)) = none := by
  rw [toJson_of_not_finite infinite]
  rfl

end FlagValue

namespace Json

theorem readMember_of_not_finite {entry : String × FlagValue} (infinite : ¬entry.2.IsFinite)
    (rest : List Char) : readMember (Flags.writeMember entry ++ rest) = none := by
  rw [readMember_writeMember_eq_map, FlagValue.readScalar_of_not_finite infinite, Option.map_none]

theorem readMembers_of_not_finite {entries : List (String × FlagValue)}
    (infinite : ∃ entry ∈ entries, ¬entry.2.IsFinite) (rest : List Char) :
    ∀ (fuel : Nat) (flags : Flags),
      readMembers fuel flags (Flags.writeMembers entries ++ '\x7d' :: rest) = none := by
  induction entries with
  | nil =>
      obtain ⟨entry, member, -⟩ := infinite
      contradiction
  | cons entry entries inductionHypothesis =>
      intro fuel flags
      cases fuel with
      | zero => rfl
      | succ fuel =>
          by_cases finite : entry.2.IsFinite
          · have later : ∃ other ∈ entries, ¬other.2.IsFinite := by
              obtain ⟨other, member, otherInfinite⟩ := infinite
              obtain rfl | inRest := List.mem_cons.mp member
              · contradiction
              · exact ⟨other, inRest, otherInfinite⟩
            obtain ⟨image, reads, -⟩ := FlagValue.exists_readsAs finite
            cases entries with
            | nil =>
                obtain ⟨other, member, -⟩ := later
                contradiction
            | cons second entries =>
                rw [writeMembers_cons, readMembers, readMember_writeMember reads (Or.inl rfl)]
                exact inductionHypothesis later fuel _
          · obtain ⟨after, written⟩ : ∃ after,
                Flags.writeMembers (entry :: entries) ++ '\x7d' :: rest =
                  Flags.writeMember entry ++ after := by
              cases entries with
              | nil => exact ⟨_, rfl⟩
              | cons second entries => exact ⟨_, writeMembers_cons entry second entries _⟩
            rw [written, readMembers, readMember_of_not_finite finite]

theorem readObject_of_not_finite {entries : List (String × FlagValue)}
    (infinite : ∃ entry ∈ entries, ¬entry.2.IsFinite) :
    readObject ('\x7b' :: Flags.writeMembers entries ++ ['\x7d']) = none := by
  have refused := readMembers_of_not_finite infinite []
  obtain ⟨entry, member, -⟩ := infinite
  cases entries with
  | nil => contradiction
  | cons first entries =>
      obtain ⟨afterQuote, written⟩ := exists_writeMembers first entries
      rw [written] at refused ⊢
      exact refused _ .empty

end Json

namespace Flags

/-- Every floating-point number among the values is finite. -/
def IsFinite (flags : Flags) : Prop :=
  ∀ name value, flags.get? name = some value → value.IsFinite

/-- The flags have the same names, and under each name values of one type. -/
def SameTypes (left right : Flags) : Prop :=
  ∀ name, (left.get? name).map FlagValue.type = (right.get? name).map FlagValue.type

theorem exists_images {entries : List (String × FlagValue)}
    (finite : ∀ entry ∈ entries, entry.2.IsFinite) :
    ∃ images : List (String × FlagValue), List.Forall₂ (fun entry image =>
      image.1 = entry.1 ∧ entry.2.ReadsAs image.2 ∧ image.2.type = entry.2.type)
        entries images := by
  induction entries with
  | nil => exact ⟨[], .nil⟩
  | cons entry entries inductionHypothesis =>
      obtain ⟨image, both⟩ := FlagValue.exists_readsAs (finite entry List.mem_cons_self)
      obtain ⟨images, others⟩ :=
        inductionHypothesis fun other member => finite other (List.mem_cons_of_mem _ member)
      exact ⟨(entry.1, image) :: images, .cons ⟨rfl, both⟩ others⟩

theorem ofJson_toJson_of_finite {flags : Flags} (finite : flags.IsFinite) :
    ∃ loaded, ofJson flags.toJson = .ok loaded ∧ loaded.SameTypes flags := by
  have entriesFinite : ∀ entry ∈ flags.entries, entry.2.IsFinite :=
    fun entry member => finite entry.1 entry.2 ((flags.get?_eq_some_iff _ _).mpr member)
  obtain ⟨images, related⟩ := exists_images entriesFinite
  have reads : EntriesReadAs flags.entries images :=
    related.imp fun entry image parts => ⟨parts.1, parts.2.1⟩
  have types : List.Forall₂ (fun entry image => image.1 = entry.1 ∧ image.2.type = entry.2.type)
      flags.entries images := related.imp fun entry image parts => ⟨parts.1, parts.2.2⟩
  refine ⟨.ofList images, ofJson_toJson flags reads, fun name => ?_⟩
  have last : Option.Rel (fun value image : FlagValue => image.type = value.type)
      (lastOf name flags.entries) (lastOf name images) := lastOf_related types name
  rw [NameMap.lastOf_entries, ← NameMap.get?_ofList] at last
  generalize flags.get? name = value, NameMap.get? (.ofList images) name = image at last ⊢
  cases last with
  | some same => exact congrArg some same
  | none => rfl

theorem ofJson_toJson_of_not_finite {flags : Flags} (infinite : ¬flags.IsFinite) :
    ofJson flags.toJson = .error .malformedJson := by
  obtain ⟨name, value, found, valueInfinite⟩ : ∃ name value,
      flags.get? name = some value ∧ ¬value.IsFinite := by
    simpa [IsFinite] using infinite
  have member := (flags.get?_eq_some_iff name value).mp found
  have object : Json.readObject flags.toJsonChars = none :=
    Json.readObject_of_not_finite ⟨_, member, valueInfinite⟩
  rw [ofJson, toJson, String.toList_ofList, ofJsonChars, object]

end Flags

namespace Settings

/-- The names and values that the pairs of a text spell, faulty pairs left out. -/
def bindings (text : String) : List (String × FlagValue) :=
  (pairs text.toList).filterMap fun pair => (readPair pair).toOption

/-- Every floating-point number that a text binds last to a name is finite. -/
def IsFinite (text : String) : Prop :=
  ∀ name value, lastOf name (bindings text) = some value → value.IsFinite

theorem eq_insertAll_of_bindPairs {flags result : Flags} {pairs : List (List Char)}
    (bound : bindPairs flags pairs = .ok result) :
    result = flags.insertAll (pairs.filterMap fun pair => (readPair pair).toOption) := by
  rw [bindPairs_eq] at bound
  split at bound
  · contradiction
  · cases bound
    rfl

theorem get?_ofSettings {text : String} {flags : Flags} (read : Flags.ofSettings text = .ok flags)
    (name : String) : flags.get? name = lastOf name (bindings text) := by
  rw [eq_insertAll_of_bindPairs read]
  exact NameMap.get?_ofList _ name

end Settings

namespace Flags

/-- Flags from settings are loaded with the same names and types when the floating-point numbers
that the settings bind are finite; otherwise what was saved is refused. -/
theorem settings_reload {text : String} {flags : Flags} (read : ofSettings text = .ok flags) :
    (Settings.IsFinite text →
      ∃ loaded, ofJson flags.toJson = .ok loaded ∧ loaded.SameTypes flags) ∧
    (¬Settings.IsFinite text → ofJson flags.toJson = .error .malformedJson) := by
  have same : Settings.IsFinite text ↔ flags.IsFinite := by
    unfold Settings.IsFinite IsFinite
    simp only [Settings.get?_ofSettings read]
  rw [same]
  exact ⟨ofJson_toJson_of_finite, ofJson_toJson_of_not_finite⟩

/-- The largest number, the smallest one below zero, and an infinite one that is bound again. -/
def extremes : String :=
  "rate=inf, high=1.7976931348623157e308, low=-5e-324, rate=0.5, name= x ,on=yes,count=-12"

def extremeFlags : Flags :=
  .ofList [("count", .int (-12)), ("high", .float ⟨0x7FEFFFFFFFFFFFFF⟩),
    ("low", .float ⟨0x8000000000000001⟩), ("name", .text "x"), ("on", .bool true),
    ("rate", .float ⟨0x3FE0000000000000⟩)]

theorem settings_reload_extremes :
    ofSettings extremes = .ok extremeFlags ∧ Settings.IsFinite extremes ∧
      ∃ loaded, ofJson extremeFlags.toJson = .ok loaded ∧ loaded.SameTypes extremeFlags := by
  have read : ofSettings extremes = .ok extremeFlags := by decide +kernel
  have finite : Settings.IsFinite extremes := by
    intro name value last
    rw [← Settings.get?_ofSettings read] at last
    have entriesFinite : ∀ entry ∈ extremeFlags.entries, entry.2.IsFinite := by decide
    exact entriesFinite _ ((extremeFlags.get?_eq_some_iff name value).mp last)
  exact ⟨read, finite, (settings_reload read).1 finite⟩

/-- An infinite number spoils the saved flags. -/
theorem not_settings_reload :
    ¬∀ text flags, ofSettings text = .ok flags →
      ∃ loaded, ofJson flags.toJson = .ok loaded ∧ loaded.SameTypes flags := by
  intro reload
  have read : ofSettings "rate=inf" = .ok (.ofList [("rate", .float (.infinity false))]) := by
    decide
  obtain ⟨loaded, loads, -⟩ := reload _ _ read
  have refused : ofJson (toJson (.ofList [("rate", .float (.infinity false))])) =
      .error .malformedJson := by
    decide
  rw [refused] at loads
  contradiction

end Flags

end Circuitry
