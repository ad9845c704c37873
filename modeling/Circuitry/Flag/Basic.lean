import Circuitry.NameMap
import Circuitry.Flag.Value

/-!
Compiler flags: named values that the compiler stores and a pipeline interprets.

Flags form a map in which the last value set for a name counts.  A pipeline asks for a flag with
the type it expects; a flag that is absent takes a default, one of another type is an error.
-/

namespace Circuitry

/-- Named values that configure a pipeline. -/
abbrev Flags := NameMap FlagValue

/-- What can be wrong with a compiler flag. -/
inductive FlagError
  /-- A setting without an equals sign. -/
  | missingValue (setting : String)
  /-- A setting with nothing before its equals sign. -/
  | emptyName (setting : String)
  /-- A text that is not a JSON object of scalars. -/
  | malformedJson
  /-- A flag with a value of another type than the one asked for. -/
  | wrongType (name : String) (expected : FlagType) (found : FlagValue)
  /-- A flag whose value means nothing to the pipeline, in words of the pipeline. -/
  | rejected (name : String) (reason : String)
  deriving DecidableEq

namespace FlagError

/-- The flag, or the text, that is at fault. -/
def subject : FlagError → String
  | .missingValue setting => setting
  | .emptyName setting => setting
  | .malformedJson => "<json>"
  | .wrongType name _ _ => name
  | .rejected name _ => name

/-- What is wrong with the flag; nothing is said about a malformed JSON text. -/
def reason : FlagError → Option String
  | .missingValue _ => some "expected `name=value`"
  | .emptyName _ => some "empty flag name"
  | .malformedJson => none
  | .wrongType _ expected found =>
    some ("expected a " ++ expected.label ++ ", got " ++ found.type.label ++ " `"
      ++ found.display ++ "`")
  | .rejected _ reason => some reason

/-- The error in words. -/
def message (error : FlagError) : String :=
  "invalid compiler flag `" ++ error.subject ++ "`"
    ++ match error.reason with
      | some reason => ": " ++ reason
      | none => ""

end FlagError

namespace Flags

/-! ## Asking for a flag of one type -/

/-- A truth value, or the default when the flag is absent. -/
def boolOr (flags : Flags) (name : String) (default : Bool) : Except FlagError Bool :=
  match flags.get? name with
  | none => .ok default
  | some (.bool value) => .ok value
  | some found => .error (.wrongType name .bool found)

/-- An integer, or the default when the flag is absent. -/
def intOr (flags : Flags) (name : String) (default : Int64) : Except FlagError Int64 :=
  match flags.get? name with
  | none => .ok default
  | some (.int value) => .ok value
  | some found => .error (.wrongType name .int found)

/-- A floating-point number, or the default when the flag is absent; an integer is rounded to the
nearest one. -/
def floatOr (flags : Flags) (name : String) (default : Binary64) : Except FlagError Binary64 :=
  match flags.get? name with
  | none => .ok default
  | some (.float value) => .ok value
  | some (.int value) => .ok (.ofInt value.toInt)
  | some found => .error (.wrongType name .float found)

/-- A text, or the default when the flag is absent. -/
def textOr (flags : Flags) (name : String) (default : String) : Except FlagError String :=
  match flags.get? name with
  | none => .ok default
  | some (.text value) => .ok value
  | some found => .error (.wrongType name .text found)

/-! ## Comparison and outline -/

/-- Whether two sets of flags bind the same names to equal values. -/
def agrees (left right : Flags) : Bool :=
  NameMap.agrees FlagValue.agrees left right

/-- The flags as they stand in outlines. -/
def outline (flags : Flags) : String :=
  Text.record "CompilerFlags"
    [("values", Text.mapping (flags.entries.map fun entry =>
      (Text.quoted entry.1, entry.2.outline)))]

end Flags

end Circuitry
