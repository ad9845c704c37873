import Circuitry.Proofs.Compiler.Dispatch

/-!
# Aloof rules

An aloof rule does not call the compiler back: it compiles and registers nothing, applies no rule
and adds none, and it leaves a certain part of the state of the backend.  A visit to which such a
rule is applied has an answer, whatever it is, and is reported as one dispatch.  Without a rule a
visit fails and is not reported.
-/

namespace Circuitry

variable {κ : Type} [Vocabulary κ] {target : Target} {α β : Type}

/-- The script does not call the compiler back, and leaves what is observed of the state. -/
def Script.Aloof {α : Type} (observe : target.State → β) : Script κ target α → Prop
  | .done _ => True
  | .compiling _ _ => False
  | .registering _ _ _ => False
  | .applying _ _ _ _ _ => False
  | .addingRule _ _ _ _ => False
  | .viewing next => ∀ seen, (next seen).Aloof observe
  | .updating change next =>
    (∀ state, observe (change state) = observe state) ∧ next.Aloof observe
  | .noting _ _ next => next.Aloof observe
  | .counting _ _ next => ∀ earlier, (next earlier).Aloof observe
  | .finishing _ _ next => ∀ answer, (next answer).Aloof observe

def Rulebook.Aloof (observe : target.State → β) (book : Rulebook κ target) : Prop :=
  ∀ (category : Category) (node : Node κ) (rule : Rule κ target category),
    (book.registry category).find node.kind = .ok rule → (rule node).Aloof observe

/-- Of the compiler the rules and what is observed of the state are as before, and given visits have
been dispatched. -/
structure Session.Leaves (observe : target.State → β) (invoked : List (Visit κ))
    (session later : Session κ target) : Prop where
  rules : later.compiler.rules = session.compiler.rules
  observed : observe later.compiler.state = observe session.compiler.state
  trail : later.dispatches = session.dispatches ++ invoked.map Visit.event

section Runs

variable {observe : target.State → β} {session middle later : Session κ target}

theorem Session.Leaves.refl (observe : target.State → β) (session : Session κ target) :
    session.Leaves observe [] session :=
  ⟨rfl, rfl, (List.append_nil _).symm⟩

theorem Session.Leaves.trans {invoked more : List (Visit κ)}
    (first : session.Leaves observe invoked middle) (second : middle.Leaves observe more later) :
    session.Leaves observe (invoked ++ more) later where
  rules := second.rules.trans first.rules
  observed := second.observed.trans first.observed
  trail := by rw [second.trail, first.trail, List.append_assoc, List.map_append]

theorem Session.leaves_note (observe : target.State → β) (session : Session κ target)
    (message : String) (details : List (String × Detail)) :
    session.Leaves observe [] (session.report [.note message details]) where
  rules := rfl
  observed := rfl
  trail := session.dispatches_report _

theorem Session.leaves_finishCircuit (observe : target.State → β) (session : Session κ target)
    (builder : CircuitBuilder κ) (outputs : List Nat) :
    session.Leaves observe [] (session.finishCircuit builder outputs).2 := by
  unfold Session.finishCircuit
  split <;> exact ⟨rfl, rfl, (List.append_nil _).symm⟩

/-- An aloof script ends, and dispatches nothing. -/
theorem Script.Aloof.runWith (calls : Calls κ target) {script : Script κ target α} :
    script.Aloof observe → ∀ session : Session κ target,
      ∃ outcome later, script.runWith calls session = some (outcome, later) ∧
        session.Leaves observe [] later := by
  induction script with
  | done outcome => exact fun _ session => ⟨outcome, session, rfl, .refl observe session⟩
  | compiling circuit next _ => exact False.elim
  | registering circuit output next _ => exact False.elim
  | applying category kind node announced next _ => exact False.elim
  | addingRule category kind body next _ _ => exact False.elim
  | viewing next inductionHypothesis =>
      exact fun aloof session => inductionHypothesis _ (aloof _) session
  | updating change next inductionHypothesis =>
      intro aloof session
      have changed : session.Leaves observe [] (session.update change) :=
        ⟨rfl, aloof.1 _, (List.append_nil _).symm⟩
      obtain ⟨outcome, later, ran, leaves⟩ := inductionHypothesis aloof.2 (session.update change)
      exact ⟨outcome, later, ran, changed.trans leaves⟩
  | noting message details next inductionHypothesis =>
      intro aloof session
      obtain ⟨outcome, later, ran, leaves⟩ := inductionHypothesis aloof
        (session.report [.note message details])
      exact ⟨outcome, later, ran, (session.leaves_note observe message details).trans leaves⟩
  | counting rule tag next inductionHypothesis =>
      intro aloof session
      have counted : session.Leaves observe [] (session.countInvocation rule tag).2 :=
        ⟨rfl, rfl, (List.append_nil _).symm⟩
      obtain ⟨outcome, later, ran, leaves⟩ := inductionHypothesis _ (aloof _)
        (session.countInvocation rule tag).2
      exact ⟨outcome, later, ran, counted.trans leaves⟩
  | finishing builder outputs next inductionHypothesis =>
      intro aloof session
      obtain ⟨outcome, later, ran, leaves⟩ := inductionHypothesis _ (aloof _)
        (session.finishCircuit builder outputs).2
      exact ⟨outcome, later, ran,
        (session.leaves_finishCircuit observe builder outputs).trans leaves⟩

end Runs

/-- The visit if its rule is invoked, which it is when there is one. -/
def Compiler.invoked (compiler : Compiler κ target) (visit : Visit κ) : List (Visit κ) :=
  if compiler.hasRule visit then [visit] else []

theorem Compiler.invoked_congr {compiler later : Compiler κ target}
    (same : later.rules = compiler.rules) (visit : Visit κ) :
    later.invoked visit = compiler.invoked visit := by
  unfold Compiler.invoked Compiler.hasRule
  rw [same]

theorem Rulebook.Aloof.visit (backend : Backend κ) {observe : backend.target.State → β}
    {session : Session κ backend.target} (aloof : session.compiler.rules.Aloof observe)
    (depth : Nat) (visit : Visit κ) :
    ∃ answer later,
      (Calls.within backend (depth + 1)).visit visit session = some (answer, later) ∧
        session.Leaves observe (session.compiler.invoked visit) later ∧
        (answer.isOk = true → session.compiler.invoked visit = [visit]) := by
  change ∃ answer later,
    Calls.applyWith _ visit.category visit.node.kind visit.node true session = _ ∧ _
  unfold Calls.applyWith Compiler.invoked Compiler.hasRule
  rw [← Registry.isOk_find]
  cases found : (session.compiler.rules.registry visit.category).find visit.node.kind with
  | error error =>
      exact ⟨_, session, rfl, .refl observe session, fun succeeded => nomatch succeeded⟩
  | ok rule =>
      obtain ⟨answer, later, ran, leaves⟩ :=
        (aloof _ visit.node rule found).runWith (.within backend depth)
          (session.report [visit.event])
      have reported : session.Leaves observe [visit] (session.report [visit.event]) :=
        ⟨rfl, rfl, session.dispatches_report _⟩
      exact ⟨answer, later, ran, reported.trans leaves, fun _ => rfl⟩

theorem Script.Yields.aloof {script : Script κ target α} {outcome : Except (Failure κ target) α}
    (yields : script.Yields outcome) (observe : target.State → β) : script.Aloof observe := by
  induction yields with
  | done outcome => trivial
  | viewing _ inductionHypothesis => exact inductionHypothesis
  | noting _ inductionHypothesis => exact inductionHypothesis
  | counting _ inductionHypothesis => exact inductionHypothesis
  | finishing _ inductionHypothesis => exact inductionHypothesis

theorem Rulebook.Follows.aloof {book : Rulebook κ target} {results : Results κ target}
    (follows : book.Follows results) (observe : target.State → β) : book.Aloof observe :=
  fun category node rule found => (follows category node rule found).aloof observe

end Circuitry
