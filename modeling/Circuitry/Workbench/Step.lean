import Circuitry.Workbench.Circuits
import Circuitry.Workbench.Compilers
import Circuitry.Workbench.FlagSets
import Circuitry.Workbench.Ledgers

/-!
All steps of a workbench, and performing a list of them.
-/

namespace Circuitry.Workbench

inductive Step
  | circuits (step : CircuitStep)
  | flags (step : FlagStep)
  | ledgers (step : LedgerStep)
  | registries (step : RegistryStep)
  | makeCompiler (compiler : String) (platform : PlatformChoice)
      (source : CompilerSource) (flags : List (String × FlagValue))
  | compilers (compiler : String) (step : CompilerStep)
  /-- Compares two compiled circuits. -/
  | compare (left right : String)
  /-- Counts the invocations of planned rules by tag. -/
  | countInvocations

/-- The tags of invocations with the number of each, in the order of the tags. -/
def invocationCounts (invocations : List Invocation) : List (String × Nat) :=
  (invocations.foldl
    (fun counts invocation =>
      counts.insert invocation.tag ((counts.get? invocation.tag).getD 0 + 1))
    NameMap.empty).entries

def Step.perform (bench : Bench) : Step → Reply
  | .circuits step => step.perform bench
  | .flags step => step.perform bench
  | .ledgers step => step.perform bench
  | .registries step => step.perform bench
  | .makeCompiler name platform source pairs =>
    source.make bench name platform.platform (NameMap.ofList pairs)
  | .compilers name step =>
    Reply.withNamed bench bench.compilers name fun hosted => step.perform bench name hosted
  | .compare left right =>
    Reply.withNamed bench bench.compiled left fun first =>
      Reply.ofQuestion bench bench.compiled right fun second =>
        match first.compare second with
        | some (equal, same, content) => .comparison equal same content
        | none => .unknown right
  | .countInvocations => (.counts (invocationCounts bench.invocations), bench)

/-- Performs steps one after the other; gives their answers. -/
def performAll (bench : Bench) : List Step → List Answer × Bench
  | [] => ([], bench)
  | step :: rest =>
    let (answer, later) := step.perform bench
    let (answers, final) := performAll later rest
    (answer :: answers, final)

/-- Performs steps on an empty workbench; gives their answers and the events reported. -/
def run (overwriteSetting : Option String) (steps : List Step) :
    List Answer × Array (Event Kind) :=
  let (answers, final) := performAll { overwriteSetting := overwriteSetting } steps
  (answers, final.events)

end Circuitry.Workbench
