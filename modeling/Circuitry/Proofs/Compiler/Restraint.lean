import Circuitry.Proofs.Compiler.Moments
import Circuitry.Proofs.Compiler.Quiet

/-!
# Restrained scripts

A restrained script changes the state of the backend in allowed ways only, whatever its requests are
answered, and so do the rules that it adds.  When the rules of a compiler are restrained, they stay
so in every run of a restrained script.
-/

namespace Circuitry

variable {κ : Type} [Vocabulary κ] {target : Target} {α β : Type}

/-- The script itself changes the state of the backend in allowed ways only. -/
def Script.Respects {α : Type} (allowed : (target.State → target.State) → Prop) :
    Script κ target α → Prop
  | .done _ => True
  | .compiling _ next => ∀ answer, (next answer).Respects allowed
  | .registering _ _ next => ∀ answer, (next answer).Respects allowed
  | .applying _ _ _ _ next => ∀ answer, (next answer).Respects allowed
  | .addingRule _ _ body next =>
    (∀ payload, (body payload).Respects allowed) ∧ ∀ answer, (next answer).Respects allowed
  | .viewing next => ∀ seen, (next seen).Respects allowed
  | .updating change next => allowed change ∧ next.Respects allowed
  | .noting _ _ next => next.Respects allowed
  | .counting _ _ next => ∀ earlier, (next earlier).Respects allowed
  | .finishing _ _ next => ∀ answer, (next answer).Respects allowed

/-- Every rule of the rulebook is restrained. -/
def Rulebook.Respects (allowed : (target.State → target.State) → Prop)
    (book : Rulebook κ target) : Prop :=
  ∀ (category : Category) (kind : κ) (rule : Rule κ target category),
    (book.registry category).rule? kind = some rule → ∀ node, (rule node).Respects allowed

variable {allowed : (target.State → target.State) → Prop}

theorem Script.Respects.of_done {script : Script κ target α} {outcome : Except (Failure κ target) α}
    (ended : script = .done outcome) : script.Respects allowed := by
  rw [ended]
  trivial

theorem Rule.ofKind_respects {category : Category} {kind : κ}
    {body : Vocabulary.Payload kind → Script κ target (target.Value category)}
    (respects : ∀ payload, (body payload).Respects allowed) (node : Node κ) :
    (Rule.ofKind kind body node).Respects allowed := by
  unfold Rule.ofKind
  split
  · exact respects _
  · trivial

section Rulebook

variable {book : Rulebook κ target}

theorem Rulebook.respects_of_forall
    (all : ∀ category, ∀ entry ∈ (book.registry category).rules, ∀ node,
      (entry.2 node).Respects allowed) : book.Respects allowed := by
  intro category kind rule known
  exact all category (kind, rule) (Registry.mem_of_rule? known)

theorem Rulebook.Respects.of_find (respects : book.Respects allowed) {category : Category}
    {kind : κ} {rule : Rule κ target category}
    (found : (book.registry category).find kind = .ok rule) (node : Node κ) :
    (rule node).Respects allowed :=
  respects category kind rule (Registry.rule?_of_find found) node

theorem Rulebook.registry_withRegistry (category other : Category)
    (registry : Registry κ (Rule κ target category)) :
    (book.withRegistry category registry).registry other =
      if same : category = other then same ▸ registry else book.registry other := by
  cases category <;> cases other <;> rfl

theorem Rulebook.Respects.add (respects : book.Respects allowed) {category : Category} {kind : κ}
    {rule : Rule κ target category} (ruleRespects : ∀ node, (rule node).Respects allowed)
    {grown : Rulebook κ target} {events : List (Event κ)}
    (added : book.add category kind rule = .ok (grown, events)) : grown.Respects allowed := by
  unfold Rulebook.add at added
  split at added
  · next registry reported accepted =>
      cases added
      intro other asked found known
      rw [Rulebook.registry_withRegistry] at known
      by_cases same : category = other
      · subst same
        rw [dif_pos rfl, Registry.rule?_of_add accepted] at known
        split at known
        · cases known
          exact ruleRespects
        · exact respects category asked found known
      · rw [dif_neg same] at known
        exact respects other asked found known
  · contradiction

end Rulebook

/-- A registration changes nothing but the ledger. -/
theorem Session.compiler_register (session : Session κ target) (circuit : Circuit κ)
    (output : target.Output) :
    (session.register circuit output).2.compiler =
      { session.compiler with
        ledger := (session.register circuit output).2.compiler.ledger } := by
  unfold Session.register Compiler.register
  cases session.compiler.ledger.register circuit output <;> rfl

theorem Script.Respects.afterRequest? {script rest : Script κ target α}
    {session later : Session κ target} (respects : script.Respects allowed)
    (rules : session.compiler.rules.Respects allowed)
    (requested : script.afterRequest? session = some (rest, later)) :
    rest.Respects allowed ∧ later.compiler.rules.Respects allowed := by
  cases script <;> simp only [Script.afterRequest?, Option.some.injEq, Prod.mk.injEq,
    reduceCtorEq] at requested <;> obtain ⟨rfl, rfl⟩ := requested
  case registering circuit output next =>
    refine ⟨respects _, ?_⟩
    rw [session.compiler_register circuit output]
    exact rules
  case addingRule category kind body next =>
    refine ⟨respects.2 _, ?_⟩
    unfold Session.addRule
    split
    · next grown events added => exact rules.add (Rule.ofKind_respects respects.1) added
    · exact rules
  case finishing builder outputs next =>
    refine ⟨respects _, ?_⟩
    rw [session.compiler_finishCircuit builder outputs]
    exact rules
  case updating change next => exact ⟨respects.2, rules⟩
  case noting => exact ⟨respects, rules⟩
  all_goals exact ⟨respects _, rules⟩

end Circuitry
