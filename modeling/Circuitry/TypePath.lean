/-!
Names of types as paths: segments joined by double colons, possibly followed by a list of
arguments between angle brackets, which may hold paths again.

The short name is the last segment together with the arguments.
-/

namespace Circuitry.TypePath

/-- The part of a name before its arguments. -/
def head (name : List Char) : List Char :=
  name.takeWhile (· ≠ '<')

/-- The arguments of a name with their brackets; empty when there are none. -/
def arguments (name : List Char) : List Char :=
  name.dropWhile (· ≠ '<')

/-- What follows the last double colon. -/
def afterLastColons : List Char → Option (List Char)
  | [] => none
  | char :: rest =>
    match afterLastColons rest with
    | some segment => some segment
    | none =>
      match rest with
      | [] => none
      | next :: segment => if char = ':' ∧ next = ':' then some segment else none

/-- A name without the path in front of its last segment. -/
def shortChars (name : List Char) : List Char :=
  match afterLastColons (head name) with
  | some segment => segment ++ arguments name
  | none => name

/-- A name without the path in front of its last segment. -/
def short (name : String) : String :=
  String.ofList (shortChars name.toList)

end Circuitry.TypePath
