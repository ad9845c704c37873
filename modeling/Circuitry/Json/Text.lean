/-!
JSON strings.

A string is written between double quotes; quotes, backslashes and the characters below the space
are escaped, everything else stands as it is.  The reader takes the text after the opening quote.
-/

namespace Circuitry.Json

/-! ## Writing -/

/-- The digit of a number below sixteen, in lower case. -/
def hexDigit (number : Nat) : Char :=
  Nat.digitChar (number % 16)

/-- A character as it stands inside a string. -/
def escapeChar (char : Char) : List Char :=
  match char with
  | '"' => ['\\', '"']
  | '\\' => ['\\', '\\']
  | '\x08' => ['\\', 'b']
  | '\x0c' => ['\\', 'f']
  | '\n' => ['\\', 'n']
  | '\r' => ['\\', 'r']
  | '\t' => ['\\', 't']
  | _ =>
    if char.toNat < 0x20 then
      ['\\', 'u', '0', '0', hexDigit (char.toNat / 16), hexDigit char.toNat]
    else [char]

/-- A string between double quotes. -/
def writeString (text : List Char) : List Char :=
  '"' :: text.flatMap escapeChar ++ ['"']

/-! ## Reading -/

/-- The value of a hexadecimal digit of either case. -/
def hexValue (char : Char) : Option Nat :=
  let code := char.toNat
  if 0x30 ≤ code ∧ code ≤ 0x39 then some (code - 0x30)
  else if 0x41 ≤ code ∧ code ≤ 0x46 then some (code - 0x41 + 10)
  else if 0x61 ≤ code ∧ code ≤ 0x66 then some (code - 0x61 + 10)
  else none

/-- The code unit that four hexadecimal digits denote. -/
def codeUnit (first second third fourth : Char) : Option Nat := do
  let high ← hexValue first
  let upper ← hexValue second
  let lower ← hexValue third
  let low ← hexValue fourth
  return ((high * 16 + upper) * 16 + lower) * 16 + low

/-- The character that a backslash and a letter denote. -/
def unescapeChar (letter : Char) : Option Char :=
  match letter with
  | '"' => some '"'
  | '\\' => some '\\'
  | '/' => some '/'
  | 'b' => some '\x08'
  | 'f' => some '\x0c'
  | 'n' => some '\n'
  | 'r' => some '\r'
  | 't' => some '\t'
  | _ => none

/-- What a code unit means after a pending first half of a surrogate pair: a new first half, or a
character; a half without its partner means nothing. -/
def joinUnit (pending : Option Nat) (unit : Nat) : Option (Nat ⊕ Char) :=
  match pending with
  | some high =>
    if 0xDC00 ≤ unit ∧ unit ≤ 0xDFFF then
      some (.inr (Char.ofNat (0x10000 + (high - 0xD800) * 0x400 + (unit - 0xDC00))))
    else none
  | none =>
    if 0xD800 ≤ unit ∧ unit ≤ 0xDBFF then some (.inl unit)
    else if 0xDC00 ≤ unit ∧ unit ≤ 0xDFFF then none
    else some (.inr (Char.ofNat unit))

/-- Puts a character in front of what was read. -/
def prepend (char : Char) (result : Option (List Char × List Char)) :
    Option (List Char × List Char) :=
  result.map fun read => (char :: read.1, read.2)

/-- Reads the rest of a string up to its closing quote; gives the string and what follows it.
`pending` is the first half of a surrogate pair that stands right before. -/
def readString (pending : Option Nat) : List Char → Option (List Char × List Char)
  | '\\' :: 'u' :: first :: second :: third :: fourth :: rest =>
    match (codeUnit first second third fourth).bind (joinUnit pending) with
    | some (.inl high) => readString (some high) rest
    | some (.inr char) => prepend char (readString none rest)
    | none => none
  | '\\' :: letter :: rest =>
    match pending, unescapeChar letter with
    | none, some char => prepend char (readString none rest)
    | _, _ => none
  | '"' :: rest => if pending.isNone then some ([], rest) else none
  | char :: rest =>
    if pending.isNone ∧ 0x20 ≤ char.toNat ∧ char ≠ '\\' then
      prepend char (readString none rest)
    else none
  | [] => none

end Circuitry.Json
