import Circuitry.Flag.Json
import Circuitry.Proofs.Json.Number
import Circuitry.Proofs.Json.Text
import Circuitry.Proofs.NameMap.Entries

/-!
# Saved flags are read back

A written value is read as some value, whatever member follows it.  The writer puts the members in
the order of their names, and the reader binds them in that order, so what is read has the names
that were written with the values that those are read as.  Truth values, integers and texts are read
as they are, hence flags with such values are read back.
-/

namespace Circuitry

namespace Json

/-- A comma or the closing brace follows. -/
def EndsMember (rest : List Char) : Prop :=
  rest.head? = some ',' ∨ rest.head? = some '\x7d'

theorem EndsMember.endsNumber {rest : List Char} (ends : EndsMember rest) : EndsNumber rest := by
  intro char first
  obtain comma | brace := ends
  · rw [comma] at first
    cases first
    decide
  · rw [brace] at first
    cases first
    decide

section Number

variable {first : Char} (starts : first = '-' ∨ first.isDigit = true)

include starts

theorem isSpace_number : isSpace first = false := by
  obtain rfl | digit := starts
  · rfl
  · by_contra space
    simp only [Bool.not_eq_false, isSpace, Bool.or_eq_true, beq_iff_eq] at space
    obtain ((rfl | rfl) | rfl) | rfl := space <;> contradiction

theorem skipSpaces_number (others : List Char) :
    skipSpaces (first :: others) = first :: others := by
  rw [skipSpaces, List.dropWhile_cons_of_neg (Bool.eq_false_iff.mp (isSpace_number starts))]

theorem readScalar_number (others : List Char) :
    readScalar (first :: others) =
      (readNumber (first :: others)).map fun read =>
        match read.1 with
        | .integer value => (.int value, read.2)
        | .float value => (.float value, read.2) := by
  have other : first ≠ 't' ∧ first ≠ 'f' ∧ first ≠ '"' := by
    refine ⟨?_, ?_, ?_⟩ <;> rintro rfl <;> obtain minus | digit := starts <;> contradiction
  unfold readScalar
  split
  · next same => exact absurd (List.head_eq_of_cons_eq same) other.1
  · next same => exact absurd (List.head_eq_of_cons_eq same) other.2.1
  · next same => exact absurd (List.head_eq_of_cons_eq same) other.2.2
  · rfl

end Number

end Json

namespace FlagValue

/-- The written value is read as a value wherever it ends a member. -/
def ReadsAs (value image : FlagValue) : Prop :=
  ∀ rest, Json.EndsMember rest →
    Json.readScalar (Json.skipSpaces (value.toJson ++ rest)) = some (image, rest)

theorem readsAs_bool (value : Bool) : (bool value).ReadsAs (.bool value) := by
  intro rest _
  cases value <;> rfl

theorem readsAs_text (value : String) : (text value).ReadsAs (.text value) := by
  intro rest _
  obtain ⟨afterQuote, written, read⟩ := Json.exists_writeString value.toList rest
  rw [toJson, written]
  change (Json.readString none afterQuote).map _ = _
  rw [read, Option.map_some, String.ofList_toList]

theorem readsAs_int (value : Int64) : (int value).ReadsAs (.int value) := by
  intro rest ends
  obtain ⟨first, others, parts, starts⟩ := Numeral.exists_ofInt value.toInt
  have read := Json.readNumber_ofInt value ends.endsNumber
  rw [parts, List.cons_append] at read
  rw [toJson, parts, List.cons_append, Json.skipSpaces_number starts, Json.readScalar_number starts,
    read]
  rfl

theorem readsAs_self (value : FlagValue) (notFloat : value.type ≠ .float) :
    value.ReadsAs value := by
  cases value with
  | bool value => exact readsAs_bool value
  | int value => exact readsAs_int value
  | float value => contradiction
  | text value => exact readsAs_text value

end FlagValue

/-- The images have the same names, and the values that the written ones are read as. -/
abbrev Flags.EntriesReadAs (entries images : List (String × FlagValue)) : Prop :=
  List.Forall₂ (fun entry image => image.1 = entry.1 ∧ entry.2.ReadsAs image.2) entries images

namespace Json

theorem readMember_writeMember_eq_map (entry : String × FlagValue) (rest : List Char) :
    readMember (Flags.writeMember entry ++ rest) =
      (readScalar (skipSpaces (entry.2.toJson ++ rest))).map fun read =>
        ((entry.1, read.1), read.2) := by
  obtain ⟨afterQuote, written, read⟩ :=
    exists_writeString entry.1.toList (':' :: entry.2.toJson ++ rest)
  have member : Flags.writeMember entry ++ rest = '"' :: afterQuote := by
    rw [← written, Flags.writeMember, List.append_assoc]
  have quote : skipSpaces ('"' :: afterQuote) = '"' :: afterQuote := rfl
  have colon : skipSpaces (':' :: (entry.2.toJson ++ rest)) = ':' :: (entry.2.toJson ++ rest) := rfl
  simp only [readMember, member, quote, read, List.cons_append, colon, String.ofList_toList]

theorem readMember_writeMember {entry : String × FlagValue} {image : FlagValue}
    (reads : entry.2.ReadsAs image) {rest : List Char} (ends : EndsMember rest) :
    readMember (Flags.writeMember entry ++ rest) = some ((entry.1, image), rest) := by
  rw [readMember_writeMember_eq_map, reads rest ends, Option.map_some]

theorem length_le_writeMembers (entries : List (String × FlagValue)) :
    entries.length ≤ (Flags.writeMembers entries).length := by
  induction entries with
  | nil => exact Nat.le_refl 0
  | cons entry rest inductionHypothesis =>
      cases rest with
      | nil =>
          simp only [Flags.writeMembers, Flags.writeMember, List.length_append, List.length_cons,
            List.length_nil]
          omega
      | cons second rest =>
          simp only [Flags.writeMembers, List.length_append, List.length_cons]
            at inductionHypothesis ⊢
          omega

theorem writeMembers_cons (entry second : String × FlagValue)
    (entries : List (String × FlagValue)) (rest : List Char) :
    Flags.writeMembers (entry :: second :: entries) ++ rest =
      Flags.writeMember entry ++ ',' :: (Flags.writeMembers (second :: entries) ++ rest) := by
  rw [Flags.writeMembers, List.append_assoc, List.cons_append]
  exact List.cons_ne_nil _ _

theorem readMembers_writeMembers {entries images : List (String × FlagValue)}
    (reads : Flags.EntriesReadAs entries images) (nonempty : entries ≠ []) (rest : List Char) :
    ∀ (fuel : Nat) (flags : Flags), entries.length ≤ fuel →
      readMembers fuel flags (Flags.writeMembers entries ++ '\x7d' :: rest) =
        some (flags.insertAll images, rest) := by
  induction reads with
  | nil => contradiction
  | @cons entry image entries images both others inductionHypothesis =>
      obtain ⟨name, value⟩ := image
      obtain ⟨rfl, read⟩ := both
      intro fuel flags enough
      have positive : 0 < fuel := Nat.lt_of_lt_of_le (Nat.succ_pos _) enough
      obtain ⟨fuel, rfl⟩ := Nat.exists_eq_add_one.mpr positive
      cases others with
      | nil =>
          have ends : EndsMember ('\x7d' :: rest) := Or.inr rfl
          have member := readMember_writeMember read ends
          rw [Flags.writeMembers, readMembers, member]
          rfl
      | @cons second secondImage entries images secondBoth others =>
          have ends : EndsMember
              (',' :: (Flags.writeMembers (second :: entries) ++ '\x7d' :: rest)) := Or.inl rfl
          have member := readMember_writeMember read ends
          rw [writeMembers_cons, readMembers, member]
          exact inductionHypothesis (List.cons_ne_nil _ _) fuel _ (Nat.le_of_succ_le_succ enough)

theorem exists_writeMembers (entry : String × FlagValue) (entries : List (String × FlagValue)) :
    ∃ afterQuote, Flags.writeMembers (entry :: entries) = '"' :: afterQuote := by
  cases entries with
  | nil => exact ⟨_, rfl⟩
  | cons second rest => exact ⟨_, rfl⟩

theorem readObject_writeMembers {entries images : List (String × FlagValue)}
    (reads : Flags.EntriesReadAs entries images) :
    readObject ('\x7b' :: Flags.writeMembers entries ++ ['\x7d']) = some (.ofList images, []) := by
  cases entries with
  | nil =>
      cases reads
      rfl
  | cons entry entries =>
      have enough : (entry :: entries).length ≤
          (Flags.writeMembers (entry :: entries) ++ ['\x7d']).length := by
        have longer := length_le_writeMembers (entry :: entries)
        rw [List.length_append]
        omega
      have members := readMembers_writeMembers reads (List.cons_ne_nil _ _) [] _ .empty enough
      obtain ⟨afterQuote, written⟩ := exists_writeMembers entry entries
      rw [written, List.cons_append] at members
      rw [written]
      exact members

end Json

namespace Flags

theorem ofJson_toJson (flags : Flags) {images : List (String × FlagValue)}
    (reads : EntriesReadAs flags.entries images) :
    ofJson flags.toJson = .ok (.ofList images) := by
  have object : Json.readObject flags.toJsonChars = some (.ofList images, []) :=
    Json.readObject_writeMembers reads
  rw [ofJson, toJson, String.toList_ofList, ofJsonChars, object]
  rfl

/-- None of the values is a floating-point number. -/
def WithoutFloats (flags : Flags) : Prop :=
  ∀ name value, flags.get? name = some value → value.type ≠ .float

theorem withoutFloats_of_entries {flags : Flags}
    (plain : ∀ entry ∈ flags.entries, entry.2.type ≠ .float) : flags.WithoutFloats :=
  fun name value found => plain (name, value) ((flags.get?_eq_some_iff name value).mp found)

/-- Flags without floating-point numbers are read back as they were saved, each value with its type;
so different ones are saved differently. -/
theorem json_round_trip {flags : Flags} (withoutFloats : flags.WithoutFloats) :
    ofJson flags.toJson = .ok flags ∧
      ∀ other : Flags, other.WithoutFloats → other.toJson = flags.toJson → other = flags := by
  have readBack : ∀ saved : Flags, saved.WithoutFloats → ofJson saved.toJson = .ok saved := by
    intro saved plain
    have reads : EntriesReadAs saved.entries saved.entries := by
      refine List.forall₂_same.mpr fun entry member => ⟨rfl, ?_⟩
      exact entry.2.readsAs_self (plain _ _ ((saved.get?_eq_some_iff _ _).mpr member))
    rw [ofJson_toJson saved reads, NameMap.ofList_entries]
  refine ⟨readBack flags withoutFloats, ?_⟩
  intro other plain same
  have both := readBack other plain
  rw [same, readBack flags withoutFloats] at both
  exact (Except.ok.inj both).symm

/-- Names and texts that need escapes or look like other values, and both limits of the integers. -/
def awkward : Flags :=
  .ofList [("", .int Int64.minValue), ("\"\\\n\x00\x1f\x7f", .text "true"),
    ("\u2028😀", .text "12"), ("max", .int Int64.maxValue), ("no", .bool false),
    ("text", .text "\"\x08\x0c\r\t/\\u0041")]

/-- A truth value in place of the text that looks like it. -/
def lookalike : Flags :=
  awkward.insert "\"\\\n\x00\x1f\x7f" (.bool true)

theorem json_round_trip_awkward :
    awkward.WithoutFloats ∧ lookalike.WithoutFloats ∧
      ofJson awkward.toJson = .ok awkward ∧ lookalike.toJson ≠ awkward.toJson := by
  have plain : awkward.WithoutFloats := withoutFloats_of_entries (by decide)
  have lookalikePlain : lookalike.WithoutFloats := withoutFloats_of_entries (by decide)
  have different : lookalike ≠ awkward := by decide
  obtain ⟨readBack, injective⟩ := json_round_trip plain
  exact ⟨plain, lookalikePlain, readBack, different ∘ injective lookalike lookalikePlain⟩

end Flags

end Circuitry
