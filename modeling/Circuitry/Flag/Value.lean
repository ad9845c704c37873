import Circuitry.Text.Truth
import Circuitry.Number.Layout
import Circuitry.Number.Numeral
import Circuitry.Text.Quoted
import Circuitry.Text.Outline

/-!
The values of compiler flags.

A value read from plain text is a truth value if it is spelled like one, else an integer, else a
floating-point number, else the trimmed text itself.
-/

namespace Circuitry

/-- The value of a compiler flag. -/
inductive FlagValue
  | bool (value : Bool)
  | int (value : Int64)
  | float (value : Binary64)
  | text (value : String)
  deriving DecidableEq

/-- The types of flag values. -/
inductive FlagType
  | bool
  | int
  | float
  | text
  deriving DecidableEq, Repr

/-- The name of a type of flag values in messages. -/
def FlagType.label : FlagType → String
  | .bool => "bool"
  | .int => "int"
  | .float => "float"
  | .text => "string"

namespace FlagValue

def type : FlagValue → FlagType
  | .bool _ => .bool
  | .int _ => .int
  | .float _ => .float
  | .text _ => .text

/-- Guesses the value that characters spell: truth value, integer, floating-point number, text. -/
def ofChars (chars : List Char) : FlagValue :=
  let trimmed := Text.trimChars chars
  match Text.truth? trimmed with
  | some value => .bool value
  | none =>
    match Numeral.int64? trimmed with
    | some value => .int value
    | none =>
      match Numeral.binary64? trimmed with
      | some value => .float value
      | none => .text (String.ofList trimmed)

/-- Guesses the value that a text spells. -/
def parse (text : String) : FlagValue :=
  ofChars text.toList

/-- The value as it stands in messages. -/
def display : FlagValue → String
  | .bool value => Text.boolean value
  | .int value => String.ofList (Numeral.ofInt value.toInt)
  | .float value => Layout.plain.write value
  | .text value => value

/-- The value with its type, as it stands in outlines. -/
def outline : FlagValue → String
  | .bool value => Text.applied "Bool" (Text.boolean value)
  | .int value => Text.applied "Int" (String.ofList (Numeral.ofInt value.toInt))
  | .float value => Text.applied "Float" (Layout.outline.write value)
  | .text value => Text.applied "Str" (Text.quoted value)

/-- Equality of values of one type; floating-point numbers are compared as numbers. -/
def agrees : FlagValue → FlagValue → Bool
  | .bool left, .bool right => left == right
  | .int left, .int right => left == right
  | .float left, .float right => left.equal right
  | .text left, .text right => left == right
  | _, _ => false

end FlagValue

end Circuitry
