import Circuitry.Proofs.Flag.Json
import Circuitry.Proofs.Flag.Settings

/-!
# Integers in settings and in JSON texts

The decimal text of an integer is read back as this integer by both readers of flags, with one
exception: in settings the texts `0` and `1` are spellings of truth values, which are tried first.
-/

namespace Circuitry

namespace Numeral

variable {number : Int} {char : Char}

theorem of_mem_ofInt (member : char ∈ ofInt number) : char = '-' ∨ char.isDigit = true := by
  unfold ofInt at member
  split at member
  · rcases List.mem_cons.mp member with minus | digit
    · exact Or.inl minus
    · exact Or.inr (isDigit_of_mem_toDigits digit)
  · exact Or.inr (isDigit_of_mem_toDigits member)

theorem toNat_of_mem_ofInt (member : char ∈ ofInt number) :
    char.toNat = 45 ∨ 48 ≤ char.toNat ∧ char.toNat ≤ 57 := by
  obtain rfl | digit := of_mem_ofInt member
  · exact Or.inl rfl
  · exact Or.inr (Char.isDigit_iff_toNat.mp digit)

theorem isBlank_of_mem_ofInt (member : char ∈ ofInt number) : Text.isBlank char = false := by
  have code := toNat_of_mem_ofInt member
  by_contra blank
  have listed : char.toNat ∈ Text.blankCodes := by
    simpa [Text.isBlank] using blank
  have others : ∀ blankCode ∈ Text.blankCodes, blankCode < 45 ∨ 57 < blankCode := by decide
  have other := others _ listed
  omega

theorem toLower_of_mem_ofInt (member : char ∈ ofInt number) : char.toLower = char := by
  have code := toNat_of_mem_ofInt member
  refine dif_neg fun upper => ?_
  have atLeast : 65 ≤ char.toNat := UInt32.le_iff_toNat_le.mp upper.1
  omega

theorem trimChars_ofInt (number : Int) : Text.trimChars (ofInt number) = ofInt number :=
  Text.trimChars_eq_self
    (fun _ first => isBlank_of_mem_ofInt (List.mem_of_head? first))
    (fun _ last => isBlank_of_mem_ofInt (List.mem_of_getLast? last))

theorem splitSign_toDigits (number : Nat) :
    splitSign (Nat.toDigits 10 number) = (false, Nat.toDigits 10 number) := by
  obtain ⟨first, others, parts, digit⟩ := (digits_toDigits number).exists_cons
  rw [parts]
  unfold splitSign
  split
  · next same =>
      cases List.head_eq_of_cons_eq same
      contradiction
  · next same =>
      cases List.head_eq_of_cons_eq same
      contradiction
  · rfl

theorem integer?_ofInt (number : Int) : integer? (ofInt number) = some number := by
  have nonempty : (Nat.toDigits 10 number.natAbs).isEmpty = false :=
    List.isEmpty_eq_false_iff.mpr (digits_toDigits _).nonempty
  have digits : (Nat.toDigits 10 number.natAbs).all Char.isDigit = true :=
    List.all_eq_true.mpr (digits_toDigits _).digit
  unfold ofInt integer?
  by_cases negative : number < 0
  · have value : -(number.natAbs : Int) = number := by omega
    rw [if_pos negative]
    simp only [splitSign, nonempty, digits, digitsValue_toDigits, value]
    rfl
  · have value : (number.natAbs : Int) = number := by omega
    rw [if_neg negative, splitSign_toDigits]
    simp only [nonempty, digits, digitsValue_toDigits, value]
    rfl

theorem int64?_ofInt (value : Int64) : int64? (ofInt value.toInt) = some value := by
  rw [int64?, integer?_ofInt, Option.bind_some, fitInt64_toInt]

theorem ofInt_injective : Function.Injective ofInt := by
  intro left right same
  have read := integer?_ofInt left
  rw [same, integer?_ofInt, Option.some.injEq] at read
  exact read.symm

/-- Among words that are made of letters, save the first one, an integer has at most this one. -/
theorem ofInt_mem_cons_iff {word : List Char} {words : List (List Char)} {other : Int}
    (isText : word = ofInt other)
    (letters : ∀ word ∈ words, word.any fun letter => letter != '-' && !letter.isDigit) :
    ofInt number ∈ word :: words ↔ number = other := by
  rw [isText, List.mem_cons, ofInt_injective.eq_iff, or_iff_left]
  intro member
  obtain ⟨letter, inWord, foreign⟩ := List.any_eq_true.mp (letters _ member)
  obtain rfl | digit := of_mem_ofInt inWord
  · contradiction
  · rw [digit, Bool.not_true, Bool.and_false] at foreign
    contradiction

/-- Of all decimal texts only those of one and zero are words for truth values. -/
theorem truth?_ofInt (number : Int) :
    Text.truth? (ofInt number) =
      if number = 1 then some true else if number = 0 then some false else none := by
  have word : (ofInt number).map Char.toLower = ofInt number :=
    (List.map_congr_left fun _ member => toLower_of_mem_ofInt member).trans (List.map_id' _)
  have isOne : ofInt number ∈ Text.trueWords ↔ number = 1 :=
    ofInt_mem_cons_iff (by decide) (by decide)
  have isZero : ofInt number ∈ Text.falseWords ↔ number = 0 :=
    ofInt_mem_cons_iff (by decide) (by decide)
  simp only [Text.truth?, trimChars_ofInt, word, List.contains_iff_mem, isOne, isZero]

end Numeral

theorem FlagValue.ofChars_ofInt (value : Int64) :
    ofChars (Numeral.ofInt value.toInt) =
      if value = 1 then .bool true else if value = 0 then .bool false else .int value := by
  have isOne : value.toInt = 1 ↔ value = 1 := Int64.toInt_inj (y := 1)
  have isZero : value.toInt = 0 ↔ value = 0 := Int64.toInt_inj (y := 0)
  simp only [ofChars, Numeral.trimChars_ofInt, Numeral.truth?_ofInt, isOne, isZero]
  by_cases one : value = 1
  · rw [if_pos one, if_pos one]
  · by_cases zero : value = 0
    · rw [if_neg one, if_neg one, if_pos zero, if_pos zero]
    · simp only [if_neg one, if_neg zero, Numeral.int64?_ofInt]

namespace Settings

/-- A name that settings can give a value as it stands. -/
structure IsName (name : String) : Prop where
  nonempty : name ≠ ""
  noComma : ',' ∉ name.toList
  noEquals : '=' ∉ name.toList
  first : ∀ char ∈ name.toList.head?, Text.isBlank char = false
  last : ∀ char ∈ name.toList.getLast?, Text.isBlank char = false

namespace IsName

variable {name : String}

theorem trim_eq (isName : IsName name) : Text.trim name = name := by
  rw [Text.trim, Text.trimChars_eq_self isName.first isName.last, String.ofList_toList]

theorem isPair (isName : IsName name) {raw : String} (rawNoComma : ',' ∉ raw.toList) :
    IsPair name raw where
  named := by
    rw [← Text.trimChars_eq_nil_iff, Text.trimChars_eq_self isName.first isName.last]
    exact fun empty => isName.nonempty (String.toList_eq_nil_iff.mp empty)
  noComma := isName.noComma
  noEquals := isName.noEquals
  rawNoComma := rawNoComma

end IsName

theorem ofSettings_single {name raw : String} (isName : IsName name)
    (rawNoComma : ',' ∉ raw.toList) :
    Flags.ofSettings (name ++ "=" ++ raw) = .ok (.ofList [(name, FlagValue.parse raw)]) := by
  have nothing : Text.AllBlank [] := Text.allBlank_nil
  have spells : Spells _ [(name, raw)] :=
    .pair nothing nothing nothing nothing (isName.isPair rawNoComma) .nil
  rw [Flags.ofSettings_of_spells (by simp) spells, List.map_singleton, isName.trim_eq]

end Settings

namespace Json

theorem Spaced.endsNumber {tokens : List (List Char)} {text : List Char}
    (spaced : Spaced (['\x7d'] :: tokens) text) : EndsNumber text := by
  intro char isHead
  obtain space | rfl := spaced.head?_cases char isHead
  · simp only [isSpace, Bool.or_eq_true, beq_iff_eq] at space
    obtain ((rfl | rfl) | rfl) | rfl := space <;> decide
  · decide

theorem readMember_of_spaced {spelling name rest : List Char} (spells : Spells spelling name)
    {value : Int64} (spaced : Spaced [[':'], Numeral.ofInt value.toInt, ['\x7d']] rest) :
    ∃ afterNumber, readMember ('"' :: (spelling ++ '"' :: rest)) =
        some ((String.ofList name, .int value), afterNumber) ∧
      Spaced [['\x7d']] afterNumber := by
  obtain ⟨afterColon, colon, spacedNumber⟩ := spaced.exists_skipSpaces rfl
  obtain ⟨first, others, parts, starts⟩ := Numeral.exists_ofInt value.toInt
  rw [parts] at spacedNumber
  obtain ⟨afterNumber, number, spacedBrace⟩ :=
    spacedNumber.exists_skipSpaces (isSpace_number starts)
  have read := readNumber_ofInt value spacedBrace.endsNumber
  rw [parts, List.cons_append] at read
  have quote : skipSpaces ('"' :: (spelling ++ '"' :: rest)) = '"' :: (spelling ++ '"' :: rest) :=
    rfl
  refine ⟨afterNumber, ?_, spacedBrace⟩
  simp only [readMember, quote, readString_of_spells spells, colon, List.nil_append, number,
    readScalar_number starts, read, Option.map_some]

theorem readObject_of_spaced {spelling name text : List Char} (spells : Spells spelling name)
    {value : Int64} (spaced : Spaced [['\x7b'], '"' :: (spelling ++ ['"']), [':'],
      Numeral.ofInt value.toInt, ['\x7d']] text) :
    ∃ rest, readObject text = some (.ofList [(String.ofList name, .int value)], rest) ∧
      skipSpaces rest = [] := by
  obtain ⟨afterBrace, brace, spacedString⟩ := spaced.exists_skipSpaces rfl
  obtain ⟨afterString, string, spacedColon⟩ := spacedString.exists_skipSpaces rfl
  obtain ⟨afterNumber, member, spacedBrace⟩ := readMember_of_spaced spells spacedColon
  obtain ⟨rest, close, spacedEnd⟩ := spacedBrace.exists_skipSpaces rfl
  rw [List.append_assoc, List.singleton_append] at string
  refine ⟨rest, ?_, spacedEnd.skipSpaces_last⟩
  simp only [readObject, brace, List.nil_append, string]
  change readMembers (_ + 1) .empty ('"' :: (spelling ++ '"' :: afterString)) = _
  simp only [readMembers, member, close, List.nil_append]
  rfl

end Json

namespace Flags

/-- A text of the JSON object that gives a name an integer and has no other members. -/
def SpellsInteger (text name : String) (number : Int) : Prop :=
  ∃ spelling, Json.Spells spelling name.toList ∧
    Json.Spaced [['\x7b'], '"' :: (spelling ++ ['"']), [':'], Numeral.ofInt number, ['\x7d']]
      text.toList

theorem spellsInteger_toJson (name : String) (value : Int64) :
    SpellsInteger (toJson (.ofList [(name, .int value)])) name value.toInt := by
  refine ⟨name.toList.flatMap Json.escapeChar, Json.spells_flatMap_escapeChar _, ?_⟩
  have tokens : (toJson (.ofList [(name, .int value)])).toList =
      ['\x7b'] ++ ('"' :: (name.toList.flatMap Json.escapeChar ++ ['"']) ++
        ([':'] ++ (Numeral.ofInt value.toInt ++ (['\x7d'] ++ [])))) := by
    rw [toJson, String.toList_ofList]
    change '\x7b' :: writeMember (name, .int value) ++ ['\x7d'] = _
    simp [writeMember, Json.writeString, FlagValue.toJson]
  rw [tokens]
  exact .tight <| .tight <| .tight <| .tight <| .tight <| .last (List.forall_mem_nil _)

theorem ofJson_of_spellsInteger {text name : String} {value : Int64}
    (spells : SpellsInteger text name value.toInt) :
    ofJson text = .ok (.ofList [(name, .int value)]) := by
  obtain ⟨spelling, spellsName, spaced⟩ := spells
  obtain ⟨rest, object, atEnd⟩ := Json.readObject_of_spaced spellsName spaced
  rw [String.ofList_toList] at object
  rw [ofJson, ofJsonChars, object]
  simp [atEnd]

theorem intOr_single (name : String) (value : FlagValue) (default : Int64) :
    intOr (.ofList [(name, value)]) name default =
      match value with
      | .int number => .ok number
      | found => .error (.wrongType name .int found) := by
  have found : NameMap.get? (.ofList [(name, value)]) name = some value := by
    change (NameMap.insert .empty name value).get? name = some value
    rw [NameMap.get?_insert, if_pos rfl]
  rw [intOr, found]
  cases value <;> rfl

/-- An integer is the same in settings and in JSON texts, except that settings take the texts of
zero and one as truth values, and asking for an integer is then an error. -/
theorem intOr_settings_json {name : String} (isName : Settings.IsName name) (value : Int64) :
    (∃ flags,
      ofSettings (name ++ "=" ++ String.ofList (Numeral.ofInt value.toInt)) = .ok flags ∧
        ∀ default, flags.intOr name default =
          if value = 0 ∨ value = 1 then .error (.wrongType name .int (.bool (value == 1)))
          else .ok value) ∧
      SpellsInteger (toJson (.ofList [(name, .int value)])) name value.toInt ∧
      ∀ text, SpellsInteger text name value.toInt →
        ∃ flags, ofJson text = .ok flags ∧ ∀ default, flags.intOr name default = .ok value := by
  refine ⟨⟨_, Settings.ofSettings_single isName ?_, ?_⟩, spellsInteger_toJson name value, ?_⟩
  · rw [String.toList_ofList]
    intro comma
    exact absurd (Numeral.of_mem_ofInt comma) (by decide)
  · intro default
    rw [intOr_single, FlagValue.parse, String.toList_ofList, FlagValue.ofChars_ofInt]
    by_cases one : value = 1
    · subst one
      rfl
    · by_cases zero : value = 0
      · subst zero
        rfl
      · rw [if_neg one, if_neg zero, if_neg (not_or.mpr ⟨zero, one⟩)]
  · intro text spells
    exact ⟨_, ofJson_of_spellsInteger spells, fun default => intOr_single name _ default⟩

/-- The smallest integer under a name with a space inside, and one as a truth value. -/
theorem intOr_settings_json_limits :
    (∃ flags, ofSettings "max depth=-9223372036854775808" = .ok flags ∧
      ∀ default, flags.intOr "max depth" default = .ok Int64.minValue) ∧
    (∃ flags, ofJson "\x7b\"max depth\":-9223372036854775808\x7d" = .ok flags ∧
      ∀ default, flags.intOr "max depth" default = .ok Int64.minValue) ∧
    ∃ flags, ofSettings "max depth=1" = .ok flags ∧
      ∀ default, flags.intOr "max depth" default =
        .error (.wrongType "max depth" .int (.bool true)) := by
  have isName : Settings.IsName "max depth" :=
    { nonempty := by decide, noComma := by decide, noEquals := by decide
      first := by rintro _ ⟨⟩; rfl
      last := by rintro _ ⟨⟩; rfl }
  obtain ⟨⟨flags, read, asked⟩, written, readJson⟩ := intOr_settings_json isName Int64.minValue
  obtain ⟨⟨flagsOfOne, readOne, askedOne⟩, -⟩ := intOr_settings_json isName 1
  refine ⟨⟨flags, ?_, ?_⟩, ?_, flagsOfOne, ?_, ?_⟩
  · exact read
  · exact asked
  · exact readJson _ written
  · exact readOne
  · exact askedOne

/-- In settings the text of an integer need not stand for the integer. -/
theorem not_intOr_settings :
    ¬∀ name, Settings.IsName name → ∀ value : Int64, ∃ flags,
      ofSettings (name ++ "=" ++ String.ofList (Numeral.ofInt value.toInt)) = .ok flags ∧
        ∀ default, flags.intOr name default = .ok value := by
  intro agrees
  obtain ⟨flags, read, asked⟩ := agrees "depth"
    { nonempty := by decide, noComma := by decide, noEquals := by decide
      first := by rintro _ ⟨⟩; rfl
      last := by rintro _ ⟨⟩; rfl } 1
  have known : ofSettings ("depth" ++ "=" ++ String.ofList (Numeral.ofInt (1 : Int64).toInt)) =
      .ok (.ofList [("depth", .bool true)]) := by
    decide
  rw [known] at read
  cases read
  exact absurd (asked 0) (by decide)

end Flags

end Circuitry
