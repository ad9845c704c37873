import Circuitry.Flag.Basic

/-!
Flags written as settings: `name=value` pairs separated by commas.

Each pair is trimmed and empty ones are skipped.  A name ends at the first equals sign and is
trimmed again; what follows is a value in plain text.  The first faulty pair is the error.
-/

namespace Circuitry

namespace Settings

/-- Cuts characters at every separator. -/
def segments (separator : Char) : List Char → List (List Char)
  | [] => [[]]
  | char :: rest =>
    if char = separator then [] :: segments separator rest
    else
      match segments separator rest with
      | [] => [[char]]
      | first :: others => (char :: first) :: others

/-- Cuts characters at the first equals sign. -/
def splitAtEquals : List Char → Option (List Char × List Char)
  | [] => none
  | char :: rest =>
    if char = '=' then some ([], rest)
    else (splitAtEquals rest).map fun split => (char :: split.1, split.2)

/-- The pairs of a text: its segments between commas, trimmed, without the empty ones. -/
def pairs (chars : List Char) : List (List Char) :=
  ((segments ',' chars).map Text.trimChars).filter fun segment => !segment.isEmpty

def readPair (pair : List Char) : Except FlagError (String × FlagValue) :=
  match splitAtEquals pair with
  | none => .error (.missingValue (String.ofList pair))
  | some (name, raw) =>
    let trimmed := Text.trimChars name
    if trimmed.isEmpty then .error (.emptyName (String.ofList pair))
    else .ok (String.ofList trimmed, FlagValue.ofChars raw)

/-- Reads pairs in turn and binds their names. -/
def bindPairs : Flags → List (List Char) → Except FlagError Flags
  | flags, [] => .ok flags
  | flags, pair :: rest =>
    match readPair pair with
    | .error error => .error error
    | .ok (name, value) => bindPairs (flags.insert name value) rest

end Settings

namespace Flags

/-- Reads flags from a list of settings. -/
def ofSettings (text : String) : Except FlagError Flags :=
  Settings.bindPairs .empty (Settings.pairs text.toList)

/-- Reads flags from a variable of the environment, which may be unset or blank. -/
def ofVariable : Option String → Except FlagError Flags
  | none => .ok .empty
  | some text => if Text.isAllBlank text then .ok .empty else ofSettings text

end Flags

end Circuitry
