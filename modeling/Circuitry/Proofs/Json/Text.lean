import Circuitry.Flag.Json
import Mathlib.Data.List.TakeWhile

/-!
# Spellings of JSON texts

A string may be spelled in many ways: each of its characters stands for itself or is escaped, by a
letter or by its code units.  The reader takes every spelling of a string as this string, and the
writer chooses one of them.  Between the tokens of a text there may be any spaces.
-/

namespace Circuitry.Json

theorem hexValue_hexDigit {number : Nat} (small : number < 16) :
    hexValue (hexDigit number) = some number := by
  have all : ∀ digit < 16, hexValue (hexDigit digit) = some digit := by decide
  exact all number small

theorem hexDigit_mod (number : Nat) : hexDigit (number % 16) = hexDigit number := by
  unfold hexDigit
  rw [Nat.mod_mod]

theorem codeUnit_hexDigit {number : Nat} (small : number < 256) :
    codeUnit '0' '0' (hexDigit (number / 16)) (hexDigit number) = some number := by
  have zero : hexValue '0' = some 0 := rfl
  have high : hexValue (hexDigit (number / 16)) = some (number / 16) :=
    hexValue_hexDigit (by omega)
  have low : hexValue (hexDigit number) = some (number % 16) := by
    rw [← hexDigit_mod]
    exact hexValue_hexDigit (Nat.mod_lt number (by decide))
  have value : ((0 * 16 + 0) * 16 + number / 16) * 16 + number % 16 = number := by omega
  simp only [codeUnit, zero, high, low, Option.bind_eq_bind, Option.bind_some, value]
  rfl

theorem joinUnit_toNat (char : Char) : joinUnit none char.toNat = some (.inr char) := by
  have valid : char.toNat < 0xD800 ∨ 0xDFFF < char.toNat ∧ char.toNat < 0x110000 := char.valid
  have noHigh : ¬(0xD800 ≤ char.toNat ∧ char.toNat ≤ 0xDBFF) := by omega
  have noLow : ¬(0xDC00 ≤ char.toNat ∧ char.toNat ≤ 0xDFFF) := by omega
  rw [joinUnit, if_neg noHigh, if_neg noLow, Char.ofNat_toNat]

/-- The ways to spell a text between the quotes of a string. -/
inductive Spells : List Char → List Char → Prop
  | nil : Spells [] []
  | plain {char : Char} {spelling text : List Char} :
      0x20 ≤ char.toNat → char ≠ '"' → char ≠ '\\' → Spells spelling text →
      Spells (char :: spelling) (char :: text)
  | letter {letter char : Char} {spelling text : List Char} :
      unescapeChar letter = some char → Spells spelling text →
      Spells ('\\' :: letter :: spelling) (char :: text)
  | unit {first second third fourth char : Char} {spelling text : List Char} :
      codeUnit first second third fourth = some char.toNat → Spells spelling text →
      Spells ('\\' :: 'u' :: first :: second :: third :: fourth :: spelling) (char :: text)
  /-- A character that takes two code units is spelled by both halves of the pair. -/
  | halves {first second third fourth fifth sixth seventh eighth char : Char} {high low : Nat}
      {spelling text : List Char} :
      codeUnit first second third fourth = some high → 0xD800 ≤ high → high ≤ 0xDBFF →
      codeUnit fifth sixth seventh eighth = some low → 0xDC00 ≤ low → low ≤ 0xDFFF →
      char.toNat = 0x10000 + (high - 0xD800) * 0x400 + (low - 0xDC00) → Spells spelling text →
      Spells ('\\' :: 'u' :: first :: second :: third :: fourth :: '\\' :: 'u' :: fifth :: sixth ::
        seventh :: eighth :: spelling) (char :: text)

theorem readString_plain {char : Char} (rest : List Char) (printable : 0x20 ≤ char.toNat)
    (quote : char ≠ '"') (backslash : char ≠ '\\') :
    readString none (char :: rest) = prepend char (readString none rest) := by
  rw [readString]
  · rw [if_pos ⟨rfl, printable, backslash⟩]
  · exact fun _ _ _ _ _ same => absurd same backslash
  · exact fun _ _ same => absurd same backslash
  · exact quote

theorem readString_letter {letter char : Char} (rest : List Char)
    (escapes : unescapeChar letter = some char) :
    readString none ('\\' :: letter :: rest) = prepend char (readString none rest) := by
  have notUnit : letter ≠ 'u' := by
    rintro rfl
    contradiction
  rw [readString]
  · exact fun _ _ _ _ _ same _ => notUnit same
  · exact escapes

theorem readString_of_spells {spelling text : List Char} (spells : Spells spelling text)
    (rest : List Char) : readString none (spelling ++ '"' :: rest) = some (text, rest) := by
  induction spells with
  | nil => rfl
  | plain printable quote backslash _ inductionHypothesis =>
      rw [List.cons_append, readString_plain _ printable quote backslash, inductionHypothesis]
      rfl
  | letter escapes _ inductionHypothesis =>
      rw [List.cons_append, List.cons_append, readString_letter _ escapes, inductionHypothesis]
      rfl
  | unit isUnit _ inductionHypothesis =>
      simp only [List.cons_append, readString, isUnit, Option.bind_some, joinUnit_toNat,
        inductionHypothesis]
      rfl
  | @halves first second third fourth fifth sixth seventh eighth char high low spelling text isHigh
      highFrom highTo isLow lowFrom lowTo value _ inductionHypothesis =>
      have begun : joinUnit none high = some (.inl high) := by
        rw [joinUnit, if_pos ⟨highFrom, highTo⟩]
      have joined : joinUnit (some high) low = some (.inr char) := by
        rw [joinUnit, if_pos ⟨lowFrom, lowTo⟩, ← value, Char.ofNat_toNat]
      simp only [List.cons_append, readString, isHigh, isLow, Option.bind_some, begun, joined,
        inductionHypothesis]
      rfl

/-- What the writer puts between the quotes is a spelling. -/
theorem spells_escapeChar (char : Char) {spelling text : List Char}
    (spells : Spells spelling text) : Spells (escapeChar char ++ spelling) (char :: text) := by
  unfold escapeChar
  split
  case h_8 quote backslash _ _ _ _ _ =>
    split
    · next control => exact .unit (codeUnit_hexDigit (by omega)) spells
    · next plain => exact .plain (Nat.not_lt.mp plain) quote backslash spells
  all_goals exact .letter rfl spells

theorem spells_flatMap_escapeChar (text : List Char) : Spells (text.flatMap escapeChar) text := by
  induction text with
  | nil => exact .nil
  | cons char text inductionHypothesis =>
      rw [List.flatMap_cons]
      exact spells_escapeChar char inductionHypothesis

theorem exists_writeString (text rest : List Char) :
    ∃ afterQuote, writeString text ++ rest = '"' :: afterQuote ∧
      readString none afterQuote = some (text, rest) := by
  refine ⟨text.flatMap escapeChar ++ '"' :: rest, ?_, ?_⟩
  · simp [writeString]
  · exact readString_of_spells (spells_flatMap_escapeChar text) rest

/-- Tokens with any spaces between and around them. -/
inductive Spaced : List (List Char) → List Char → Prop
  | last {spaces : List Char} : (∀ char ∈ spaces, isSpace char = true) → Spaced [] spaces
  | token {spaces token : List Char} {tokens : List (List Char)} {text : List Char} :
      (∀ char ∈ spaces, isSpace char = true) → Spaced tokens text →
      Spaced (token :: tokens) (spaces ++ (token ++ text))

namespace Spaced

theorem tight {token : List Char} {tokens : List (List Char)} {text : List Char}
    (spaced : Spaced tokens text) : Spaced (token :: tokens) (token ++ text) := by
  change Spaced (token :: tokens) ([] ++ (token ++ text))
  exact .token (List.forall_mem_nil _) spaced

variable {first : Char} {others : List Char} {tokens : List (List Char)} {text : List Char}

theorem skipSpaces_last (spaced : Spaced [] text) : skipSpaces text = [] := by
  cases spaced with
  | last spaces => exact List.dropWhile_eq_nil_iff.mpr spaces

theorem exists_skipSpaces (spaced : Spaced ((first :: others) :: tokens) text)
    (notSpace : isSpace first = false) :
    ∃ rest, skipSpaces text = first :: (others ++ rest) ∧ Spaced tokens rest := by
  cases spaced with
  | @token spaces _ _ rest allSpaces spacedRest =>
      refine ⟨rest, ?_, spacedRest⟩
      rw [skipSpaces, List.dropWhile_append_of_pos allSpaces, List.cons_append]
      exact List.dropWhile_cons_of_neg (Bool.eq_false_iff.mp notSpace)

/-- A number ends where spaces and another token follow. -/
theorem head?_cases (spaced : Spaced ((first :: others) :: tokens) text) :
    ∀ char ∈ text.head?, isSpace char = true ∨ char = first := by
  cases spaced with
  | @token spaces _ _ rest allSpaces _ =>
      intro char isHead
      cases spaces with
      | nil => exact Or.inr (Option.some.inj isHead).symm
      | cons space spaces =>
          have same : space = char := Option.some.inj isHead
          exact Or.inl (same ▸ allSpaces space List.mem_cons_self)

end Spaced

end Circuitry.Json
