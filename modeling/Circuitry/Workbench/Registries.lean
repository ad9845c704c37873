import Circuitry.Workbench.Basic

/-!
Steps on registries of their own, whose rules write to a log.
-/

namespace Circuitry.Workbench

/-- The duplicate policy of a new registry. -/
inductive PolicyChoice
  | fixed (policy : DuplicatePolicy)
  /-- The policy that the setting of the workbench asks for. -/
  | setting

/-- The policy that is chosen. -/
def PolicyChoice.policy (bench : Bench) : PolicyChoice → DuplicatePolicy
  | .fixed policy => policy
  | .setting => bench.policy

/-- The rule that logs a tag and then fails with a message, or gives the tag with the outline of
its node.  It refuses nodes of another kind without logging. -/
def loggedRule (kind : Kind) (tag : String) (failure : Option String) : LoggedRule :=
  fun node log =>
    match node.payloadAs? kind with
    | none => (.error (.kindMismatch kind node.kind), log)
    | some payload =>
      match failure with
      | some message => (.error (.pipeline message), log ++ [tag])
      | none => (.ok (tag ++ ":" ++ Vocabulary.outline kind payload), log ++ [tag])

inductive RegistryStep
  | make (registry : String) (category : Category) (policy : PolicyChoice)
  | add (registry : String) (kind : Kind) (tag : String) (failure : Option String)
  /-- Registers the rule of one kind for another kind too. -/
  | alias (registry : String) (source kind : Kind)
  | invoke (registry : String) (kind : Kind) (node : Node Kind)
  | contains (registry : String) (kind : Kind)
  | view (registry : String)

/-- Registers a rule and answers with the size of the registry. -/
def addLoggedRule (bench : Bench) (name : String) (registry : Registry Kind LoggedRule)
    (kind : Kind) (rule : LoggedRule) : Reply :=
  match registry.add kind rule with
  | .ok (grown, events) =>
    (.size grown.size,
      { bench with
        registries := bench.registries.insert name grown
        events := bench.events ++ events })
  | .error error => (.failure (.registry error), bench)

def RegistryStep.perform (bench : Bench) : RegistryStep → Reply
  | .make name category policy =>
    (.ok, { bench with
      registries := bench.registries.insert name (.empty category (policy.policy bench)) })
  | .add name kind tag failure =>
    Reply.withNamed bench bench.registries name fun registry =>
      addLoggedRule bench name registry kind (loggedRule kind tag failure)
  | .alias name source kind =>
    Reply.withNamed bench bench.registries name fun registry =>
      match registry.find source with
      | .ok rule => addLoggedRule bench name registry kind rule
      | .error error => (.failure (.registry error), bench)
  | .invoke name kind node =>
    Reply.ofQuestion bench bench.registries name fun registry =>
      match registry.find kind with
      | .error error => .failure (.registry error)
      | .ok rule =>
        let (outcome, log) := rule node []
        .invoked outcome log
  | .contains name kind =>
    Reply.ofQuestion bench bench.registries name fun registry => .truth (registry.contains kind)
  | .view name =>
    Reply.ofQuestion bench bench.registries name fun registry =>
      .registryView (registry.map fun _ => ())

end Circuitry.Workbench
