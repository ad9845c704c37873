import Circuitry.Text.Printable

/-!
Quoted text: a string between double quotes, with quotes, backslashes, line ends, tabs and
concealed characters escaped.
-/

namespace Circuitry.Text

/-- The hexadecimal digits of a number, in lower case. -/
def hexadecimal (number : Nat) : String :=
  String.ofList (Nat.toDigits 16 number)

/-- A character as it stands between quotes. -/
def escaped (char : Char) : String :=
  match char with
  | '"' => "\\\""
  | '\\' => "\\\\"
  | '\n' => "\\n"
  | '\r' => "\\r"
  | '\t' => "\\t"
  | '\x00' => "\\0"
  | _ =>
    if isPrintable char then String.singleton char
    else "\\u\x7b" ++ hexadecimal char.toNat ++ "\x7d"

/-- A string between double quotes. -/
def quoted (text : String) : String :=
  "\"" ++ String.join (text.toList.map escaped) ++ "\""

end Circuitry.Text
