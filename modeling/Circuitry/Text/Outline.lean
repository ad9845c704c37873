/-!
The layout of structured values as text: lists in square brackets, records as a name followed by
named fields in braces, and optional values.
-/

namespace Circuitry.Text

/-- The items between square brackets, separated by commas. -/
def bracketed (items : List String) : String :=
  "[" ++ ", ".intercalate items ++ "]"

/-- The entries of a map between braces, separated by commas. -/
def mapping (entries : List (String × String)) : String :=
  "\x7b" ++ ", ".intercalate (entries.map fun entry => entry.1 ++ ": " ++ entry.2) ++ "\x7d"

/-- A named record with its fields in order; a record without fields is its bare name. -/
def record (name : String) (fields : List (String × String)) : String :=
  if fields.isEmpty then name
  else
    name ++ " \x7b " ++ ", ".intercalate (fields.map fun field => field.1 ++ ": " ++ field.2)
      ++ " \x7d"

def applied (name argument : String) : String :=
  name ++ "(" ++ argument ++ ")"

/-- An optional value, given the text of its content. -/
def optional : Option String → String
  | none => "None"
  | some content => applied "Some" content

/-- A truth value. -/
def boolean (value : Bool) : String :=
  if value then "true" else "false"

end Circuitry.Text
