import Circuitry.Flag.Json
import Circuitry.Flag.Settings
import Circuitry.Workbench.Basic

/-!
Steps that make flags, change them, and ask for them.
-/

namespace Circuitry.Workbench

/-- Where flags come from. -/
inductive FlagSource
  | pairs (pairs : List (String × FlagValue))
  | settings (text : String)
  | json (text : String)
  | variable (setting : Option String)

def FlagSource.read : FlagSource → Except FlagError Flags
  | .pairs given => .ok (NameMap.ofList given)
  | .settings text => Flags.ofSettings text
  | .json text => Flags.ofJson text
  | .variable setting => Flags.ofVariable setting

/-- A question about flags. -/
inductive FlagQuestion
  | get (name : String)
  | contains (name : String)
  | view
  | json
  | boolOr (name : String) (default : Bool)
  | intOr (name : String) (default : Int64)
  | floatOr (name : String) (default : Binary64)
  | textOr (name default : String)
  | options

/-- The answer to a question about flags. -/
def FlagQuestion.answer (flags : Flags) : FlagQuestion → Answer
  | .get name =>
    match flags.get? name with
    | some value => .flagValue value
    | none => .absent
  | .contains name => .truth (flags.contains name)
  | .view => .flagsView flags
  | .json => .text flags.toJson
  | .boolOr name default => .ofExcept .flag .truth (flags.boolOr name default)
  | .intOr name default =>
    .ofExcept .flag (fun value => .integer value.toInt) (flags.intOr name default)
  | .floatOr name default => .ofExcept .flag .float (flags.floatOr name default)
  | .textOr name default => .ofExcept .flag .text (flags.textOr name default)
  | .options => .ofExcept .flag .options (Reference.Options.ofFlags flags)

inductive FlagStep
  | make (flags : String) (source : FlagSource)
  | set (flags name : String) (value : FlagValue)
  | overlay (flags upper : String)
  | equal (flags other : String)
  | ask (flags : String) (question : FlagQuestion)

/-- Gives flags a name and answers them. -/
def keepFlags (bench : Bench) (name : String) (flags : Flags) : Reply :=
  (.flags flags, { bench with flags := bench.flags.insert name flags })

def FlagStep.perform (bench : Bench) : FlagStep → Reply
  | .make name source =>
    match source.read with
    | .ok flags => keepFlags bench name flags
    | .error error => (.failure (.flag error), bench)
  | .set name flag value =>
    Reply.withNamed bench bench.flags name fun flags =>
      keepFlags bench name (flags.insert flag value)
  | .overlay name upper =>
    Reply.withNamed bench bench.flags name fun flags =>
      Reply.withNamed bench bench.flags upper fun others =>
        keepFlags bench name (flags.overlay others)
  | .equal name other =>
    Reply.withNamed bench bench.flags name fun flags =>
      Reply.ofQuestion bench bench.flags other fun others => .truth (flags.agrees others)
  | .ask name question => Reply.ofQuestion bench bench.flags name question.answer

end Circuitry.Workbench
