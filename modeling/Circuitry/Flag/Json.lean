import Circuitry.Flag.Basic
import Circuitry.Json.Text
import Circuitry.Json.Number

/-!
Flags saved as a JSON object, and read back.

The writer puts the names in order and no blanks.  The reader takes any JSON object whose values
are truth values, numbers and strings; of equal names the last one counts.
-/

namespace Circuitry

/-! ## Writing -/

/-- A flag value as a JSON scalar. -/
def FlagValue.toJson : FlagValue → List Char
  | .bool value => (Text.boolean value).toList
  | .int value => Numeral.ofInt value.toInt
  | .float value => (Layout.saved.write value).toList
  | .text value => Json.writeString value.toList

namespace Flags

/-- One member of the object. -/
def writeMember (entry : String × FlagValue) : List Char :=
  Json.writeString entry.1.toList ++ ':' :: entry.2.toJson

/-- The members of the object with commas between them. -/
def writeMembers : List (String × FlagValue) → List Char
  | [] => []
  | [entry] => writeMember entry
  | entry :: rest => writeMember entry ++ ',' :: writeMembers rest

/-- The flags as a JSON object. -/
def toJsonChars (flags : Flags) : List Char :=
  '\x7b' :: writeMembers flags.entries ++ ['\x7d']

/-- The flags as a JSON text. -/
def toJson (flags : Flags) : String :=
  String.ofList flags.toJsonChars

end Flags

/-! ## Reading -/

namespace Json

/-- Whether a character may stand between the tokens of a JSON text. -/
def isSpace (char : Char) : Bool :=
  char == ' ' || char == '\t' || char == '\n' || char == '\r'

/-- Drops the spaces at the front. -/
def skipSpaces (chars : List Char) : List Char :=
  chars.dropWhile isSpace

/-- Reads a scalar; gives the flag value and what follows it. -/
def readScalar : List Char → Option (FlagValue × List Char)
  | 't' :: 'r' :: 'u' :: 'e' :: rest => some (.bool true, rest)
  | 'f' :: 'a' :: 'l' :: 's' :: 'e' :: rest => some (.bool false, rest)
  | '"' :: rest =>
    (readString none rest).map fun read => (.text (String.ofList read.1), read.2)
  | chars =>
    (readNumber chars).map fun read =>
      match read.1 with
      | .integer value => (.int value, read.2)
      | .float value => (.float value, read.2)

/-- Reads a name, a colon and a scalar. -/
def readMember (chars : List Char) : Option ((String × FlagValue) × List Char) :=
  match skipSpaces chars with
  | '"' :: afterQuote =>
    match readString none afterQuote with
    | some (name, afterName) =>
      match skipSpaces afterName with
      | ':' :: afterColon =>
        (readScalar (skipSpaces afterColon)).map fun read =>
          ((String.ofList name, read.1), read.2)
      | _ => none
    | none => none
  | _ => none

/-- Reads members up to the closing brace and binds their names; gives the flags and what follows
the brace.  Each member takes one unit of fuel. -/
def readMembers : Nat → Flags → List Char → Option (Flags × List Char)
  | 0, _, _ => none
  | fuel + 1, flags, chars =>
    match readMember chars with
    | some ((name, value), afterMember) =>
      match skipSpaces afterMember with
      | ',' :: rest => readMembers fuel (flags.insert name value) rest
      | '\x7d' :: rest => some (flags.insert name value, rest)
      | _ => none
    | none => none

/-- Reads an object of scalars; gives the flags and what follows the object. -/
def readObject (chars : List Char) : Option (Flags × List Char) :=
  match skipSpaces chars with
  | '\x7b' :: afterBrace =>
    match skipSpaces afterBrace with
    | '\x7d' :: rest => some (.empty, rest)
    | members => readMembers members.length .empty members
  | _ => none

end Json

namespace Flags

/-- Reads flags from the characters of a JSON text. -/
def ofJsonChars (chars : List Char) : Except FlagError Flags :=
  match Json.readObject chars with
  | some (flags, rest) =>
    if (Json.skipSpaces rest).isEmpty then .ok flags else .error .malformedJson
  | none => .error .malformedJson

/-- Reads flags from a JSON text. -/
def ofJson (text : String) : Except FlagError Flags :=
  ofJsonChars text.toList

end Flags

end Circuitry
