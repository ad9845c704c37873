import Circuitry.Compiler

/-!
# Quiet rules

A quiet script ends the same way whatever it is told, and nothing that it asks for changes the
compiler.  When the rules of a compiler are quiet, what they say about a node depends on the node
alone, and it makes no difference to the compiler that they have been applied.  Rules that look at
the flags as well are quiet under each choice of flags.
-/

namespace Circuitry

variable {κ : Type} [Vocabulary κ] {target : Target} {α : Type}

/-- The script ends with an outcome, whatever its requests are answered, and it does not call the
compiler back. -/
inductive Script.Yields : Script κ target α → Except (Failure κ target) α → Prop
  | done (outcome : Except (Failure κ target) α) :
      Yields (.done outcome) outcome
  | viewing {next : View κ target → Script κ target α} {outcome : Except (Failure κ target) α} :
      (∀ seen, Yields (next seen) outcome) → Yields (.viewing next) outcome
  | noting {message : String} {details : List (String × Detail)} {next : Script κ target α}
      {outcome : Except (Failure κ target) α} :
      Yields next outcome → Yields (.noting message details next) outcome
  | counting {rule : List Nat} {tag : String} {next : Nat → Script κ target α}
      {outcome : Except (Failure κ target) α} :
      (∀ earlier, Yields (next earlier) outcome) → Yields (.counting rule tag next) outcome
  | finishing {builder : CircuitBuilder κ} {outputs : List Nat}
      {next : Except (BuildError κ) (Circuit κ) → Script κ target α}
      {outcome : Except (Failure κ target) α} :
      (∀ answer, Yields (next answer) outcome) → Yields (.finishing builder outputs next) outcome

/-- The script ends with an outcome if it is told these flags, whatever else it is told, and it does
not call the compiler back. -/
inductive Script.YieldsUnder (flags : Flags) :
    Script κ target α → Except (Failure κ target) α → Prop
  | done (outcome : Except (Failure κ target) α) :
      YieldsUnder flags (.done outcome) outcome
  | viewing {next : View κ target → Script κ target α} {outcome : Except (Failure κ target) α} :
      (∀ seen, seen.flags = flags → YieldsUnder flags (next seen) outcome) →
      YieldsUnder flags (.viewing next) outcome
  | noting {message : String} {details : List (String × Detail)} {next : Script κ target α}
      {outcome : Except (Failure κ target) α} :
      YieldsUnder flags next outcome → YieldsUnder flags (.noting message details next) outcome
  | counting {rule : List Nat} {tag : String} {next : Nat → Script κ target α}
      {outcome : Except (Failure κ target) α} :
      (∀ earlier, YieldsUnder flags (next earlier) outcome) →
      YieldsUnder flags (.counting rule tag next) outcome
  | finishing {builder : CircuitBuilder κ} {outputs : List Nat}
      {next : Except (BuildError κ) (Circuit κ) → Script κ target α}
      {outcome : Except (Failure κ target) α} :
      (∀ answer, YieldsUnder flags (next answer) outcome) →
      YieldsUnder flags (.finishing builder outputs next) outcome

theorem Session.compiler_finishCircuit (session : Session κ target) (builder : CircuitBuilder κ)
    (outputs : List Nat) :
    (session.finishCircuit builder outputs).2.compiler = session.compiler := by
  unfold Session.finishCircuit
  split <;> rfl

section Script

variable {script : Script κ target α} {outcome : Except (Failure κ target) α}

/-- What a script ends with whatever it is told, it ends with under any flags. -/
theorem Script.Yields.under (yields : script.Yields outcome) (flags : Flags) :
    script.YieldsUnder flags outcome := by
  induction yields with
  | done outcome => exact .done outcome
  | viewing _ inductionHypothesis => exact .viewing fun seen _ => inductionHypothesis seen
  | noting _ inductionHypothesis => exact .noting inductionHypothesis
  | counting _ inductionHypothesis => exact .counting inductionHypothesis
  | finishing _ inductionHypothesis => exact .finishing inductionHypothesis

/-- A quiet script always ends, and the compiler is the same after it. -/
theorem Script.YieldsUnder.runWith {flags : Flags} (yields : script.YieldsUnder flags outcome)
    (calls : Calls κ target) :
    ∀ session, session.compiler.flags = flags →
      ∃ later, script.runWith calls session = some (outcome, later) ∧
        later.compiler = session.compiler := by
  induction yields with
  | done outcome =>
      intro session _
      exact ⟨session, rfl, rfl⟩
  | viewing _ inductionHypothesis =>
      intro session same
      exact inductionHypothesis session.compiler.view same session same
  | noting _ inductionHypothesis =>
      intro session same
      exact inductionHypothesis (session.report _) same
  | counting _ inductionHypothesis =>
      intro session same
      exact inductionHypothesis _ (session.countInvocation _ _).2 same
  | @finishing builder outputs next outcome _ inductionHypothesis =>
      intro session same
      have unchanged := session.compiler_finishCircuit builder outputs
      obtain ⟨later, ran, kept⟩ := inductionHypothesis (session.finishCircuit builder outputs).1
        (session.finishCircuit builder outputs).2 (unchanged ▸ same)
      exact ⟨later, ran, kept.trans unchanged⟩

end Script

/-- The results of applying rules to nodes, when they depend on the nodes alone. -/
abbrev Results (κ : Type) [Vocabulary κ] (target : Target) : Type :=
  (category : Category) → Node κ → Except (Failure κ target) (target.Value category)

/-- Every rule of the rulebook is quiet and ends with the result for the node. -/
def Rulebook.Follows (book : Rulebook κ target) (results : Results κ target) : Prop :=
  ∀ (category : Category) (node : Node κ) (rule : Rule κ target category),
    (book.registry category).find node.kind = .ok rule →
      (rule node).Yields (results category node)

/-- Every rule of the rulebook is quiet under the flags and ends with the result for the node. -/
def Rulebook.FollowsUnder (book : Rulebook κ target) (flags : Flags)
    (results : Results κ target) : Prop :=
  ∀ (category : Category) (node : Node κ) (rule : Rule κ target category),
    (book.registry category).find node.kind = .ok rule →
      (rule node).YieldsUnder flags (results category node)

theorem Rulebook.Follows.under {book : Rulebook κ target} {results : Results κ target}
    (follows : book.Follows results) (flags : Flags) : book.FollowsUnder flags results :=
  fun category node rule found => (follows category node rule found).under flags

theorem Rulebook.followsUnder_of_forall {book : Rulebook κ target} {flags : Flags}
    {results : Results κ target}
    (all : ∀ category, ∀ entry ∈ (book.registry category).rules, ∀ node, node.kind = entry.1 →
      (entry.2 node).YieldsUnder flags (results category node)) :
    book.FollowsUnder flags results := by
  intro category node rule found
  have member := Registry.mem_of_rule? (Registry.rule?_of_find found)
  exact all category (node.kind, rule) member node rfl

/-- The compilers have the same rules and the same ledger. -/
def Compiler.SameTables (compiler later : Compiler κ target) : Prop :=
  later.rules = compiler.rules ∧ later.ledger = compiler.ledger

section Applying

variable {backend : Backend κ} {results : Results κ backend.target} {depth : Nat}
  {category : Category} {node : Node κ} {announced : Bool}
  {session later : Session κ backend.target}

theorem Calls.apply_of_missing {error : RegistryError κ}
    (missing : (session.compiler.rules.registry category).find node.kind = .error error) :
    (Calls.within backend (depth + 1)).apply category node.kind node announced session =
      some (.error (.registry error), session) := by
  change Calls.applyWith _ category node.kind node announced session = _
  unfold Calls.applyWith
  rw [missing]

theorem Rulebook.FollowsUnder.apply_of_found
    (follows : session.compiler.rules.FollowsUnder session.compiler.flags results)
    {rule : Rule κ backend.target category}
    (found : (session.compiler.rules.registry category).find node.kind = .ok rule) :
    ∃ later, (Calls.within backend (depth + 1)).apply category node.kind node announced session =
        some (results category node, later) ∧
      later.compiler = session.compiler := by
  have yields := follows category node rule found
  have announcing : (if announced then session.report [.compiling category node.kind]
      else session).compiler = session.compiler := by
    split <;> rfl
  obtain ⟨later, ran, same⟩ := yields.runWith (.within backend depth)
    (if announced then session.report [.compiling category node.kind] else session)
    (congrArg Compiler.flags announcing)
  refine ⟨later, ?_, same.trans announcing⟩
  change Calls.applyWith _ category node.kind node announced session = _
  unfold Calls.applyWith
  rw [found]
  exact ran

theorem Rulebook.Follows.apply_of_found (follows : session.compiler.rules.Follows results)
    {rule : Rule κ backend.target category}
    (found : (session.compiler.rules.registry category).find node.kind = .ok rule) :
    ∃ later, (Calls.within backend (depth + 1)).apply category node.kind node announced session =
        some (results category node, later) ∧
      later.compiler = session.compiler :=
  (follows.under session.compiler.flags).apply_of_found found

theorem Rulebook.Follows.compiler_of_apply
    {answer : Except (Failure κ backend.target) (backend.target.Value category)}
    (follows : session.compiler.rules.Follows results)
    (applied : (Calls.within backend depth).apply category node.kind node announced session =
      some (answer, later)) : later.compiler = session.compiler := by
  cases depth with
  | zero => cases applied
  | succ depth =>
      cases found : (session.compiler.rules.registry category).find node.kind with
      | error error =>
          rw [Calls.apply_of_missing found] at applied
          cases applied
          rfl
      | ok rule =>
          obtain ⟨last, ran, same⟩ := follows.apply_of_found found
          rw [ran] at applied
          cases applied
          exact same

theorem Rulebook.Follows.apply {value : backend.target.Value category}
    (follows : session.compiler.rules.Follows results)
    (applied : (Calls.within backend depth).apply category node.kind node announced session =
      some (.ok value, later)) :
    results category node = .ok value ∧ later.compiler = session.compiler := by
  refine ⟨?_, follows.compiler_of_apply applied⟩
  cases depth with
  | zero => cases applied
  | succ depth =>
      cases found : (session.compiler.rules.registry category).find node.kind with
      | error error =>
          rw [Calls.apply_of_missing found] at applied
          cases applied
      | ok rule =>
          obtain ⟨last, ran, -⟩ := follows.apply_of_found found
          rw [ran, Option.some.injEq, Prod.mk.injEq] at applied
          exact applied.1

/-- A rule that has given a value gives it again in every session of a compiler with the same
rules. -/
theorem Rulebook.Follows.apply_again {other : Session κ backend.target}
    {value : backend.target.Value category} (follows : session.compiler.rules.Follows results)
    (applied : (Calls.within backend depth).apply category node.kind node announced session =
      some (.ok value, later))
    (same : other.compiler.rules = session.compiler.rules) :
    ∃ otherLater, (Calls.within backend depth).apply category node.kind node announced other =
      some (.ok value, otherLater) := by
  obtain ⟨answered, -⟩ := follows.apply applied
  cases depth with
  | zero => cases applied
  | succ depth =>
      cases found : (session.compiler.rules.registry category).find node.kind with
      | error error =>
          rw [Calls.apply_of_missing found] at applied
          cases applied
      | ok rule =>
          rw [← same] at follows found
          obtain ⟨last, ran, -⟩ := follows.apply_of_found found
          exact ⟨last, answered ▸ ran⟩

end Applying

theorem Rulebook.FollowsUnder.exists_answer (backend : Backend κ)
    {rules : Rulebook κ backend.target} {flags : Flags} {results : Results κ backend.target}
    (follows : rules.FollowsUnder flags results) (category : Category) (node : Node κ) :
    ∃ answer, ∀ (depth : Nat) (announced : Bool) (session : Session κ backend.target),
      session.compiler.rules = rules → session.compiler.flags = flags →
        ∃ later,
          (Calls.within backend (depth + 1)).apply category node.kind node announced session =
            some (answer, later) ∧
          later.compiler = session.compiler := by
  cases found : (rules.registry category).find node.kind with
  | error error =>
      refine ⟨.error (.registry error), fun depth announced session sameRules _ => ?_⟩
      rw [← sameRules] at found
      exact ⟨session, Calls.apply_of_missing found, rfl⟩
  | ok rule =>
      refine ⟨results category node, fun depth announced session sameRules sameFlags => ?_⟩
      subst sameRules sameFlags
      exact follows.apply_of_found found

/-- The registry in which the rules of some kinds end with the results at once. -/
def Registry.ofResults (results : Results κ target) (kinds : List κ) (category : Category) :
    Registry κ (Rule κ target category) where
  category := category
  policy := .reject
  rules := kinds.map fun kind => (kind, fun node => .done (results category node))

theorem Registry.eq_of_find_ofResults {results : Results κ target} {kinds : List κ}
    {category : Category} {kind : κ} {rule : Rule κ target category}
    (found : (Registry.ofResults results kinds category).find kind = .ok rule) :
    rule = fun node => .done (results category node) := by
  have member := Registry.mem_of_rule? (Registry.rule?_of_find found)
  obtain ⟨other, -, equality⟩ := List.mem_map.mp member
  exact (congrArg Prod.snd equality).symm

def Rulebook.ofResults (results : Results κ target) (kinds : Category → List κ) :
    Rulebook κ target where
  layers := .ofResults results (kinds .layer) .layer
  parameters := .ofResults results (kinds .parameter) .parameter
  initializers := .ofResults results (kinds .initializer) .initializer

theorem Rulebook.ofResults_follows (results : Results κ target) (kinds : Category → List κ) :
    (Rulebook.ofResults results kinds).Follows results := by
  intro category node rule found
  have quiet : rule = fun node => .done (results category node) := by
    cases category <;> exact Registry.eq_of_find_ofResults found
  rw [quiet]
  exact .done _

end Circuitry
