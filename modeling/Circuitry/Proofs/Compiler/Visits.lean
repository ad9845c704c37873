import Circuitry.Graph.Schedule
import Circuitry.Proofs.Compiler.Moments
import Circuitry.Proofs.Compiler.Quiet

/-!
# Visits

A script that makes given visits applies rules to nodes in their order, whatever the rules say, and
has no error of its own: it ends with a value when every application does, and with the error of
the first application that fails.  What such a script does in a run is therefore settled by what
the applications do.
-/

namespace Circuitry

variable {κ : Type} [Vocabulary κ] {target : Target} {α β : Type}

/-- The application of the rule of a node's kind to the node. -/
structure Visit (κ : Type) [Vocabulary κ] where
  category : Category
  node : Node κ

def ParameterEntry.visits (entry : ParameterEntry κ) : List (Visit κ) :=
  entry.initializer.toList.map (fun node => ⟨.initializer, node⟩) ++ [⟨.parameter, entry.node⟩]

def ParameterGraph.visits (graph : ParameterGraph κ) : List (Visit κ) :=
  graph.schedule.flatMap fun item => item.2.visits

/-- A layer is visited after its parameter graphs, in their order. -/
def LayerEntry.visits (layer : LayerEntry κ) : List (Visit κ) :=
  layer.parameters.flatMap (fun parameter => parameter.2.visits) ++ [⟨.layer, layer.node⟩]

/-- The visits to the layers that are compiled. -/
def Circuit.visits (circuit : Circuit κ) (prune : Bool) : List (Visit κ) :=
  (circuit.schedule prune).flatMap fun item => item.2.visits

/-- Asks for the application of the visit. -/
def Calls.visit (calls : Calls κ target) (visit : Visit κ) (session : Session κ target) :
    Run κ target (target.Value visit.category) :=
  calls.apply visit.category visit.node.kind visit.node true session

/-- The script applies rules in given visits, in their order, and hands on the first error.  In
between it looks at the compiler, changes the state of the backend and reports. -/
inductive Script.Makes : Script κ target α → List (Visit κ) → Prop
  | done (value : α) : Makes (.done (.ok value)) []
  | applying {visit : Visit κ} {visits : List (Visit κ)}
      {next : Except (Failure κ target) (target.Value visit.category) → Script κ target α} :
      (∀ error, next (.error error) = .done (.error error)) →
      (∀ value, Makes (next (.ok value)) visits) →
      Makes (.applying visit.category visit.node.kind visit.node true next) (visit :: visits)
  | viewing {next : View κ target → Script κ target α} {visits : List (Visit κ)} :
      (∀ seen, Makes (next seen) visits) → Makes (.viewing next) visits
  | updating {change : target.State → target.State} {next : Script κ target α}
      {visits : List (Visit κ)} :
      Makes next visits → Makes (.updating change next) visits
  | noting {message : String} {details : List (String × Detail)} {next : Script κ target α}
      {visits : List (Visit κ)} :
      Makes next visits → Makes (.noting message details next) visits

namespace Script.Makes

theorem bind {first : Script κ target α} {next : α → Script κ target β}
    {visits later : List (Visit κ)} (makes : first.Makes visits)
    (continues : ∀ value, (next value).Makes later) :
    (first >>= next).Makes (visits ++ later) := by
  rw [Script.bind_eq]
  induction makes with
  | done value => exact continues value
  | @applying visit visits rest hands _ inductionHypothesis =>
      refine .applying (fun error => ?_) inductionHypothesis
      rw [hands error]
      rfl
  | viewing _ inductionHypothesis => exact .viewing inductionHypothesis
  | updating _ inductionHypothesis => exact .updating inductionHypothesis
  | noting _ inductionHypothesis => exact .noting inductionHypothesis

theorem compileNode (category : Category) (node : Node κ) :
    (Script.compileNode category node : Script κ target _).Makes [⟨category, node⟩] :=
  @applying κ _ target _ ⟨category, node⟩ [] _ (fun _ => rfl) fun value => .done value

end Script.Makes

section Failing

variable {backend : Backend κ}

/-- The run from a moment ends with a visit: it comes to apply the rule, the application fails, and
the run has the error and the session of this application. -/
def Moment.EndsWith (moment : Moment backend) (visit : Visit κ)
    (error : Failure κ backend.target) (ended : Session κ backend.target) : Prop :=
  ∃ (before : Session κ backend.target)
    (next : Except (Failure κ backend.target) (backend.target.Value visit.category) →
      Script κ backend.target moment.Result),
    moment.Reaches
        ⟨moment.depth, .applying visit.category visit.node.kind visit.node true next, before⟩ ∧
      (Calls.within backend moment.depth).visit visit before = some (.error error, ended) ∧
      next (.error error) = .done (.error error)

theorem Moment.EndsWith.of_next {Result : Type} {depth : Nat}
    {script rest : Script κ backend.target Result} {session later ended : Session κ backend.target}
    {visit : Visit κ} {error : Failure κ backend.target}
    (next : Moment.Next (⟨depth, script, session⟩ : Moment backend) ⟨depth, rest, later⟩)
    (ends : Moment.EndsWith (⟨depth, rest, later⟩ : Moment backend) visit error ended) :
    Moment.EndsWith (⟨depth, script, session⟩ : Moment backend) visit error ended := by
  obtain ⟨before, continuation, reached, failed, hands⟩ := ends
  exact ⟨before, continuation, .head next reached, failed, hands⟩

theorem Script.Makes.endsWith {depth : Nat} {script : Script κ backend.target α}
    {visits : List (Visit κ)} (makes : script.Makes visits) {error : Failure κ backend.target}
    {ended : Session κ backend.target} :
    ∀ {session : Session κ backend.target},
      script.runWith (.within backend depth) session = some (.error error, ended) →
        ∃ visit ∈ visits,
          Moment.EndsWith (⟨depth, script, session⟩ : Moment backend) visit error ended := by
  induction makes with
  | done value =>
      intro session failed
      cases failed
  | @applying visit visits next hands _ inductionHypothesis =>
      intro session failed
      unfold Script.runWith at failed
      split at failed
      · contradiction
      · next answer later applied =>
          cases answer with
          | error cause =>
              rw [hands cause] at failed
              cases failed
              exact ⟨visit, List.mem_cons_self, session, next, .refl, applied, hands error⟩
          | ok value =>
              obtain ⟨culprit, member, ends⟩ := inductionHypothesis value failed
              exact ⟨culprit, List.mem_cons_of_mem visit member, ends.of_next (.passRule applied)⟩
  | viewing _ inductionHypothesis =>
      intro session failed
      obtain ⟨culprit, member, ends⟩ := inductionHypothesis _ failed
      exact ⟨culprit, member, ends.of_next (.request rfl)⟩
  | updating _ inductionHypothesis =>
      intro session failed
      obtain ⟨culprit, member, ends⟩ := inductionHypothesis failed
      exact ⟨culprit, member, ends.of_next (.request rfl)⟩
  | noting _ inductionHypothesis =>
      intro session failed
      obtain ⟨culprit, member, ends⟩ := inductionHypothesis failed
      exact ⟨culprit, member, ends.of_next (.request rfl)⟩

end Failing

/-- Visits, changes of the state of the backend and reports lead from safe sessions to safe ones. -/
structure Calls.Preserve (calls : Calls κ target) (safe : Session κ target → Prop) : Prop where
  visit : ∀ {visit session answer later}, safe session →
    calls.visit visit session = some (answer, later) → safe later
  update : ∀ {session} (change : target.State → target.State),
    safe session → safe (session.update change)
  report : ∀ {session} (events : List (Event κ)), safe session → safe (session.report events)

section Preserving

variable {calls : Calls κ target} {safe : Session κ target → Prop} {script : Script κ target α}
  {visits : List (Visit κ)}

theorem Script.Makes.preserves (preserve : calls.Preserve safe) (makes : script.Makes visits)
    {outcome : Except (Failure κ target) α} {ended : Session κ target} :
    ∀ {session : Session κ target}, safe session →
      script.runWith calls session = some (outcome, ended) → safe ended := by
  induction makes with
  | done value =>
      intro session started ran
      cases ran
      exact started
  | @applying visit visits next hands _ inductionHypothesis =>
      intro session started ran
      unfold Script.runWith at ran
      split at ran
      · contradiction
      · next answer later applied =>
          have laterSafe := preserve.visit started applied
          cases answer with
          | error cause =>
              rw [hands cause] at ran
              cases ran
              exact laterSafe
          | ok result => exact inductionHypothesis result laterSafe ran
  | viewing _ inductionHypothesis =>
      intro session started ran
      exact inductionHypothesis _ started ran
  | updating _ inductionHypothesis =>
      intro session started ran
      exact inductionHypothesis (preserve.update _ started) ran
  | noting _ inductionHypothesis =>
      intro session started ran
      exact inductionHypothesis (preserve.report _ started) ran

/-- Where the rules are quiet, the tables of the compiler stay. -/
theorem Rulebook.Follows.preserve (backend : Backend κ) {results : Results κ backend.target}
    {compiler : Compiler κ backend.target} (follows : compiler.rules.Follows results)
    (depth : Nat) :
    (Calls.within backend depth).Preserve fun session =>
      compiler.SameTables session.compiler where
  visit := by
    intro visit session answer later same applied
    have sessionFollows : session.compiler.rules.Follows results := same.1 ▸ follows
    rw [sessionFollows.compiler_of_apply applied]
    exact same
  update _ same := same
  report _ same := same

/-- In a run that succeeds every visit has succeeded. -/
theorem Script.Makes.visited (preserve : calls.Preserve safe) (makes : script.Makes visits)
    {value : α} {ended : Session κ target} :
    ∀ {session : Session κ target}, safe session →
      script.runWith calls session = some (.ok value, ended) →
        ∀ visit ∈ visits, ∃ before result after, safe before ∧
          calls.visit visit before = some (.ok result, after) := by
  induction makes with
  | done value =>
      intro session _ _ visit member
      cases member
  | @applying visit visits next hands _ inductionHypothesis =>
      intro session started succeeded
      unfold Script.runWith at succeeded
      split at succeeded
      · contradiction
      · next answer later applied =>
          cases answer with
          | error cause =>
              rw [hands cause] at succeeded
              cases succeeded
          | ok result =>
              have laterSafe := preserve.visit started applied
              exact List.forall_mem_cons.mpr
                ⟨⟨session, result, later, started, applied⟩,
                  inductionHypothesis result laterSafe succeeded⟩
  | viewing _ inductionHypothesis =>
      intro session started succeeded
      exact inductionHypothesis _ started succeeded
  | updating _ inductionHypothesis =>
      intro session started succeeded
      exact inductionHypothesis (preserve.update _ started) succeeded
  | noting _ inductionHypothesis =>
      intro session started succeeded
      exact inductionHypothesis (preserve.report _ started) succeeded

theorem Script.Makes.succeeds (preserve : calls.Preserve safe) (makes : script.Makes visits) :
    ∀ {session : Session κ target}, safe session →
      (∀ visit ∈ visits, ∀ before, safe before →
        ∃ result after, calls.visit visit before = some (.ok result, after)) →
        ∃ value ended, script.runWith calls session = some (.ok value, ended) := by
  induction makes with
  | done value =>
      intro session _ _
      exact ⟨value, session, rfl⟩
  | @applying visit visits next hands _ inductionHypothesis =>
      intro session started answered
      obtain ⟨first, rest⟩ := List.forall_mem_cons.mp answered
      obtain ⟨result, after, applied⟩ := first session started
      obtain ⟨value, ended, ran⟩ :=
        inductionHypothesis result (preserve.visit started applied) rest
      exact ⟨value, ended, (Script.runWith_applying next applied).trans ran⟩
  | viewing _ inductionHypothesis =>
      intro session started answered
      exact inductionHypothesis _ started answered
  | updating _ inductionHypothesis =>
      intro session started answered
      exact inductionHypothesis (preserve.update _ started) answered
  | noting _ inductionHypothesis =>
      intro session started answered
      exact inductionHypothesis (preserve.report _ started) answered

/-- The error of an outcome, if it is one. -/
def errorOf? {ε α : Type} : Except ε α → Option ε
  | .ok _ => none
  | .error error => some error

theorem errorOf?_eq_none_iff {ε α : Type} {outcome : Except ε α} :
    errorOf? outcome = none ↔ ∃ value, outcome = .ok value := by
  cases outcome <;> simp [errorOf?]

theorem errorOf?_eq_some_iff {ε α : Type} {outcome : Except ε α} {error : ε} :
    errorOf? outcome = some error ↔ outcome = .error error := by
  cases outcome <;> simp [errorOf?]

/-- When it is known of each visit whether it fails and how, the run ends with the error of the
first visit that fails, or with a value. -/
theorem Script.Makes.errorOf?_runWith (preserve : calls.Preserve safe)
    {fault? : Visit κ → Option (Failure κ target)} (makes : script.Makes visits) :
    ∀ {session : Session κ target}, safe session →
      (∀ visit ∈ visits, ∀ before, safe before →
        ∃ answer after, calls.visit visit before = some (answer, after) ∧
          errorOf? answer = fault? visit) →
        ∃ outcome ended, script.runWith calls session = some (outcome, ended) ∧
          errorOf? outcome = visits.findSome? fault? := by
  induction makes with
  | done value =>
      intro session _ _
      exact ⟨.ok value, session, rfl, rfl⟩
  | @applying visit visits next hands _ inductionHypothesis =>
      intro session started known
      obtain ⟨first, rest⟩ := List.forall_mem_cons.mp known
      obtain ⟨answer, after, applied, judged⟩ := first session started
      have ran := Script.runWith_applying next applied
      rw [List.findSome?_cons, ← judged]
      cases answer with
      | error error =>
          rw [hands error] at ran
          exact ⟨.error error, after, ran, rfl⟩
      | ok value =>
          obtain ⟨outcome, ended, ranRest, judgedRest⟩ :=
            inductionHypothesis value (preserve.visit started applied) rest
          exact ⟨outcome, ended, ran.trans ranRest, judgedRest⟩
  | viewing _ inductionHypothesis =>
      intro session started known
      exact inductionHypothesis _ started known
  | updating _ inductionHypothesis =>
      intro session started known
      exact inductionHypothesis (preserve.update _ started) known
  | noting _ inductionHypothesis =>
      intro session started known
      exact inductionHypothesis (preserve.report _ started) known

end Preserving

end Circuitry
