import Circuitry.Proofs.Compiler.Restraint
import Circuitry.Proofs.Compiler.Visits

/-!
# Assembly

A script that assembles something applies rules to nodes, and hands on the first error of a rule.
In between it changes the state of the backend in allowed ways, and reports; it may also fail with
an error of its own.  So an error that cannot be its own is an error of a rule.
-/

namespace Circuitry

variable {κ : Type} [Vocabulary κ] {target : Target} {α β : Type}
  {own : Failure κ target → Prop} {allowed : (target.State → target.State) → Prop}

/-- The script assembles something, with own errors of one sort and changes of another. -/
inductive Script.Assembles (own : Failure κ target → Prop)
    (allowed : (target.State → target.State) → Prop) : Script κ target α → Prop
  | done (value : α) : Assembles own allowed (.done (.ok value))
  | fail {error : Failure κ target} : own error → Assembles own allowed (.done (.error error))
  | applying {visit : Visit κ}
      {next : Except (Failure κ target) (target.Value visit.category) → Script κ target α} :
      (∀ error, next (.error error) = .done (.error error)) →
      (∀ value, Assembles own allowed (next (.ok value))) →
      Assembles own allowed (.applying visit.category visit.node.kind visit.node true next)
  | updating {change : target.State → target.State} {next : Script κ target α} :
      allowed change → Assembles own allowed next → Assembles own allowed (.updating change next)
  | noting {message : String} {details : List (String × Detail)} {next : Script κ target α} :
      Assembles own allowed next → Assembles own allowed (.noting message details next)

namespace Script.Assembles

theorem bind {first : Script κ target α} {next : α → Script κ target β}
    (assembles : first.Assembles own allowed)
    (continues : ∀ value, (next value).Assembles own allowed) :
    (first >>= next).Assembles own allowed := by
  rw [Script.bind_eq]
  induction assembles with
  | done value => exact continues value
  | fail known => exact .fail known
  | applying hands _ inductionHypothesis =>
      refine .applying (fun error => ?_) inductionHypothesis
      rw [hands error]
      rfl
  | updating permitted _ inductionHypothesis => exact .updating permitted inductionHypothesis
  | noting _ inductionHypothesis => exact .noting inductionHypothesis

theorem compileNode (category : Category) (node : Node κ) :
    (Script.compileNode category node : Script κ target _).Assembles own allowed :=
  @applying κ _ target _ own allowed ⟨category, node⟩ _ (fun _ => rfl) fun value => .done value

theorem ofExcept {outcome : Except (Failure κ target) α}
    (known : ∀ error, outcome = .error error → own error) :
    (Script.ofExcept outcome).Assembles own allowed := by
  cases outcome with
  | ok value => exact .done value
  | error error => exact .fail (known error rfl)

theorem respects {script : Script κ target α} (assembles : script.Assembles own allowed) :
    script.Respects allowed := by
  induction assembles with
  | done value => trivial
  | fail known => trivial
  | applying hands _ inductionHypothesis =>
      intro answer
      cases answer with
      | error error => exact Script.Respects.of_done (hands error)
      | ok value => exact inductionHypothesis value
  | updating permitted _ inductionHypothesis => exact ⟨permitted, inductionHypothesis⟩
  | noting _ inductionHypothesis => exact inductionHypothesis

/-- When what follows an assembly does not fail, a foreign error is that of a visit, with which the
run ends. -/
theorem endsWith (backend : Backend κ) {own : Failure κ backend.target → Prop}
    {allowed : (backend.target.State → backend.target.State) → Prop} {depth : Nat}
    {first : Script κ backend.target α} (assembles : first.Assembles own allowed)
    {next : α → Script κ backend.target β} {error : Failure κ backend.target}
    (foreign : ¬ own error) {ended : Session κ backend.target}
    (succeeds : ∀ value session,
      (next value).runWith (.within backend depth) session ≠ some (.error error, ended)) :
    ∀ {session : Session κ backend.target},
      (first.bind next).runWith (.within backend depth) session = some (.error error, ended) →
        ∃ visit,
          Moment.EndsWith (⟨depth, first.bind next, session⟩ : Moment backend) visit error
            ended := by
  induction assembles with
  | done value =>
      intro session failed
      exact absurd failed (succeeds value session)
  | fail known =>
      intro session failed
      cases failed
      exact absurd known foreign
  | @applying visit rest hands _ inductionHypothesis =>
      intro session failed
      unfold Script.bind Script.runWith at failed
      split at failed
      · contradiction
      · next answer later applied =>
          cases answer with
          | error cause =>
              dsimp only at failed
              rw [hands cause] at failed
              cases failed
              refine ⟨visit, session, fun answer => (rest answer).bind next, .refl, applied, ?_⟩
              dsimp only
              rw [hands error]
              rfl
          | ok value =>
              obtain ⟨culprit, ends⟩ := inductionHypothesis value failed
              exact ⟨culprit, ends.of_next (.passRule applied)⟩
  | updating _ _ inductionHypothesis =>
      intro session failed
      obtain ⟨culprit, ends⟩ := inductionHypothesis failed
      exact ⟨culprit, ends.of_next (.request rfl)⟩
  | noting _ inductionHypothesis =>
      intro session failed
      obtain ⟨culprit, ends⟩ := inductionHypothesis failed
      exact ⟨culprit, ends.of_next (.request rfl)⟩

end Script.Assembles

end Circuitry
