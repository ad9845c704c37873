import Mathlib.Data.Nat.Basic
import Mathlib.Data.String.Basic

/-!
# The order of names by their bytes

Texts are ordered by the code points of their characters.  UTF-8 writes a character as a first byte
and continuation bytes, which are the digits of its code point to the base 64.  A greater character
has a greater first byte, or the same one and greater digits, and so no text changes its place when
texts are ordered by their bytes instead.
-/

namespace Circuitry.Text

/-- The bytes of a text in UTF-8. -/
def utf8 (text : String) : List UInt8 :=
  text.toUTF8.data.toList

theorem utf8_eq_flatMap (text : String) :
    utf8 text = text.toList.flatMap String.utf8EncodeChar := by
  unfold utf8 String.toUTF8
  rw [← String.utf8Encode_toList, List.utf8Encode, List.data_toByteArray]

/-- The bytes come before the others, whatever follows either of them. -/
def Precedes (lower upper : List UInt8) : Prop :=
  ∀ afterLower afterUpper, lower ++ afterLower < upper ++ afterUpper

theorem precedes_cons_of_lt {first second : UInt8} (smaller : first < second)
    (lower upper : List UInt8) : Precedes (first :: lower) (second :: upper) :=
  fun _ _ => List.cons_lt_cons_iff.mpr (Or.inl smaller)

theorem Precedes.cons {lower upper : List UInt8} (precedes : Precedes lower upper) (byte : UInt8) :
    Precedes (byte :: lower) (byte :: upper) :=
  fun afterLower afterUpper =>
    List.cons_lt_cons_iff.mpr (Or.inr ⟨rfl, precedes afterLower afterUpper⟩)

theorem ofNat_lt_ofNat {left right : Nat} (smaller : left < right) (bound : right < 256) :
    UInt8.ofNat left < UInt8.ofNat right := by
  rw [UInt8.lt_iff_toNat_lt, UInt8.toNat_ofNat', UInt8.toNat_ofNat']
  omega

/-- The last digits of a code point to the base 64, as continuation bytes. -/
def continuation : Nat → Nat → List UInt8
  | 0, _ => []
  | count + 1, point => UInt8.ofNat (point / 64 ^ count % 64 + 128) :: continuation count point

/-- The number of continuation bytes of a code point. -/
def continuationCount (point : Nat) : Nat :=
  if point ≤ 0x7F then 0
  else if point ≤ 0x7FF then 1
  else if point ≤ 0xFFFF then 2
  else 3

/-- The first byte of a code point. -/
def leadByte (point : Nat) : Nat :=
  if point ≤ 0x7F then point
  else if point ≤ 0x7FF then point / 64 + 0xC0
  else if point ≤ 0xFFFF then point / 4096 + 0xE0
  else point / 262144 + 0xF0

theorem toNat_lt (char : Char) : char.toNat < 0x110000 := by
  have valid := char.valid
  unfold UInt32.isValidChar Nat.isValidChar at valid
  have := char.toNat_val
  omega

theorem utf8EncodeChar_eq (char : Char) :
    String.utf8EncodeChar char =
      UInt8.ofNat (leadByte char.toNat) ::
        continuation (continuationCount char.toNat) char.toNat := by
  have bound := toNat_lt char
  rw [String.utf8EncodeChar, Char.toNat_val]
  generalize char.toNat = point at bound ⊢
  unfold leadByte continuationCount
  split
  · rfl
  · split
    · rw [Nat.mod_eq_of_lt (show point / 64 < 32 by omega)]
      simp [continuation]
    · split
      · rw [Nat.mod_eq_of_lt (show point / 4096 < 16 by omega)]
        simp [continuation]
      · rw [Nat.mod_eq_of_lt (show point / 262144 < 8 by omega)]
        simp [continuation]

/-- Of two code points that agree before their last digits the greater one has greater digits. -/
theorem precedes_continuation {left right : Nat} (smaller : left < right) (count : Nat)
    (agree : left / 64 ^ count = right / 64 ^ count) :
    Precedes (continuation count left) (continuation count right) := by
  induction count with
  | zero =>
      rw [pow_zero, Nat.div_one, Nat.div_one] at agree
      omega
  | succ count inductionHypothesis =>
      have ordered : left / 64 ^ count ≤ right / 64 ^ count :=
        Nat.div_le_div_right (Nat.le_of_lt smaller)
      rw [pow_succ, ← Nat.div_div_eq_div_mul, ← Nat.div_div_eq_div_mul] at agree
      unfold continuation
      rcases Nat.lt_or_eq_of_le ordered with digitSmaller | digitsAgree
      · refine precedes_cons_of_lt (ofNat_lt_ofNat ?_ ?_) _ _
        · omega
        · omega
      · rw [digitsAgree]
        exact (inductionHypothesis digitsAgree).cons _

theorem leadByte_lt {point : Nat} (bound : point < 0x110000) : leadByte point < 256 := by
  unfold leadByte
  split_ifs <;> omega

/-- A greater code point has a greater first byte, or the same one and greater digits behind it. -/
theorem leadByte_cases {left right : Nat} (smaller : left < right) :
    leadByte left < leadByte right ∨
      leadByte left = leadByte right ∧ continuationCount left = continuationCount right ∧
        left / 64 ^ continuationCount left = right / 64 ^ continuationCount left := by
  unfold leadByte continuationCount
  split_ifs <;> omega

theorem precedes_utf8EncodeChar {left right : Char} (smaller : left < right) :
    Precedes (String.utf8EncodeChar left) (String.utf8EncodeChar right) := by
  have pointSmaller : left.toNat < right.toNat := smaller
  rw [utf8EncodeChar_eq, utf8EncodeChar_eq]
  rcases leadByte_cases pointSmaller with leadSmaller | ⟨sameLead, sameCount, digits⟩
  · exact precedes_cons_of_lt (ofNat_lt_ofNat leadSmaller (leadByte_lt (toNat_lt right))) _ _
  · rw [sameLead, ← sameCount]
    exact (precedes_continuation pointSmaller _ digits).cons _

theorem flatMap_utf8EncodeChar_lt {left right : List Char} (smaller : left < right) :
    left.flatMap String.utf8EncodeChar < right.flatMap String.utf8EncodeChar := by
  induction smaller with
  | nil =>
      rw [List.flatMap_nil, List.flatMap_cons, utf8EncodeChar_eq]
      exact List.nil_lt_cons _ _
  | rel charSmaller => exact precedes_utf8EncodeChar charSmaller _ _
  | cons _ inductionHypothesis => exact List.append_left_lt inductionHypothesis

theorem utf8_lt_of_lt {left right : String} (smaller : left < right) : utf8 left < utf8 right := by
  rw [utf8_eq_flatMap, utf8_eq_flatMap]
  exact flatMap_utf8EncodeChar_lt smaller

/-- The order of texts is the order of their bytes. -/
theorem lt_iff_utf8_lt {left right : String} : left < right ↔ utf8 left < utf8 right := by
  refine ⟨utf8_lt_of_lt, fun bytesSmaller => ?_⟩
  rcases lt_trichotomy left right with smaller | rfl | greater
  · exact smaller
  · exact absurd bytesSmaller (List.lt_irrefl _)
  · exact absurd bytesSmaller (List.lt_asymm (utf8_lt_of_lt greater))

end Circuitry.Text
