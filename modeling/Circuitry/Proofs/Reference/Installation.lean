import Circuitry.Proofs.Compiler.Slots
import Circuitry.Proofs.Reference.DefaultRules
import Mathlib.Data.List.TakeWhile

/-!
# Installing the default rules

The default rules are added one after the other, and the first one that is refused ends the
installation.  A rule is refused when its kind has a rule already and its registry rejects
duplicates; since the kinds of the default rules differ, the rules that are added on the way do not
matter for this.  The rules before the refused one stay.
-/

namespace Circuitry.Reference

/-- A default rule with its category. -/
abbrev DefaultEntry : Type :=
  (category : Category) × DefaultRule category

namespace DefaultEntry

/-- The slot and the kind of the rule. -/
def key (entry : DefaultEntry) : Category × Kind :=
  (entry.1, entry.2.kind)

def refusedBy (book : Rulebook Kind target) (entry : DefaultEntry) : Bool :=
  (book.registry entry.1).contains entry.2.kind && decide ((book.registry entry.1).policy = .reject)

/-- The kind is of the category. -/
def OwnKind (entry : DefaultEntry) : Prop :=
  entry.2.kind.category = entry.1

instance (entry : DefaultEntry) : Decidable entry.OwnKind :=
  inferInstanceAs (Decidable (_ = _))

end DefaultEntry

/-- The default rules in the order in which they are added. -/
def defaultEntries : List DefaultEntry :=
  Category.all.flatMap fun category =>
    (defaultRules category).map fun default => ⟨category, default⟩

theorem nodup_key_defaultEntries : (defaultEntries.map (·.key)).Nodup := by
  decide

theorem ownKind_of_mem {entry : DefaultEntry} (member : entry ∈ defaultEntries) :
    entry.OwnKind := by
  have all : ∀ key ∈ defaultEntries.map (·.key), key.2.category = key.1 := by decide
  exact all entry.key (List.mem_map_of_mem member)

/-- Adds the rules one after the other. -/
def addEach : List DefaultEntry → Script Kind target Unit
  | [] => pure ()
  | entry :: rest => do
    addDefaultRule entry.1 entry.2.kind entry.2.check
    addEach rest

theorem addDefaultRules_eq : addDefaultRules = addEach defaultEntries := by
  simp [addDefaultRules, addEach, defaultEntries, defaultRules, Category.all, Script.bind_done]

/-- What the entries make of a rulebook: they stand in it, and nothing else changes. -/
structure Installs (entries : List DefaultEntry) (book grown : Rulebook Kind target) : Prop where
  held : ∀ entry ∈ entries, entry.2.HeldBy grown
  others : ∀ slot kind, (slot, kind) ∉ entries.map (·.key) →
    (grown.registry slot).rule? kind = (book.registry slot).rule? kind
  policies : ∀ slot, (grown.registry slot).policy = (book.registry slot).policy

namespace Installs

variable {book middle grown : Rulebook Kind target} {entry : DefaultEntry}
  {rest : List DefaultEntry}

theorem nil (book : Rulebook Kind target) : Installs [] book book where
  held _ member := nomatch member
  others _ _ _ := rfl
  policies _ := rfl

/-- A rule that is added first stays, since the kinds of the others are different. -/
theorem cons (first : Installs [entry] book middle) (later : Installs rest middle grown)
    (different : entry.key ∉ rest.map (·.key)) : Installs (entry :: rest) book grown where
  held := by
    refine List.forall_mem_cons.mpr ⟨?_, later.held⟩
    exact (later.others entry.1 entry.2.kind different).trans (first.held entry List.mem_cons_self)
  others slot kind absent := by
    rw [List.map_cons, List.mem_cons, not_or] at absent
    rw [later.others slot kind absent.2]
    exact first.others slot kind (by simpa using absent.1)
  policies slot := (later.policies slot).trans (first.policies slot)

/-- An entry of another kind is refused later as it was before. -/
theorem refusedBy_eq {entries : List DefaultEntry} (installs : Installs entries book grown)
    (absent : entry.key ∉ entries.map (·.key)) : entry.refusedBy grown = entry.refusedBy book := by
  unfold DefaultEntry.refusedBy Registry.contains
  rw [installs.others entry.1 entry.2.kind absent, installs.policies]

end Installs

theorem add_of_refused {book : Rulebook Kind target} {entry : DefaultEntry}
    (own : entry.OwnKind) (sorted : book.Sorted) (refused : entry.refusedBy book = true) :
    book.add entry.1 entry.2.kind entry.2.rule =
      .error (.duplicate entry.1 entry.2.kind) := by
  have slot := (sorted entry.1).own
  have accepts : ¬ Vocabulary.category entry.2.kind ≠ (book.registry entry.1).category :=
    not_not.mpr (own.trans slot.symm)
  unfold DefaultEntry.refusedBy at refused
  unfold Rulebook.add Registry.add
  rw [if_neg accepts, if_pos (by simpa using refused), slot]

theorem add_of_accepted {book : Rulebook Kind target} {entry : DefaultEntry}
    (own : entry.OwnKind) (sorted : book.Sorted) (accepted : entry.refusedBy book = false) :
    ∃ grown events, book.add entry.1 entry.2.kind entry.2.rule = .ok (grown, events) ∧
      Installs [entry] book grown := by
  obtain ⟨category, default⟩ := entry
  have accepts : ¬ Vocabulary.category default.kind ≠ (book.registry category).category :=
    not_not.mpr (own.trans (sorted category).own.symm)
  have allowed : ¬ ((book.registry category).contains default.kind ∧
      (book.registry category).policy = .reject) := by
    unfold DefaultEntry.refusedBy at accepted
    simpa using accepted
  obtain ⟨registry, events, added⟩ : ∃ registry events,
      (book.registry category).add default.kind default.rule = .ok (registry, events) := by
    unfold Registry.add
    rw [if_neg accepts, if_neg allowed]
    exact ⟨_, _, rfl⟩
  have grows : book.add category default.kind default.rule =
      .ok (book.withRegistry category registry, events) := by
    unfold Rulebook.add
    rw [added]
  refine ⟨_, events, grows, ?_⟩
  constructor
  case held =>
    refine List.forall_mem_singleton.mpr ?_
    change Registry.rule? (Rulebook.registry _ category) default.kind = _
    rw [Rulebook.registry_withRegistry, dif_pos rfl, Registry.rule?_of_add added, if_pos rfl]
  case others =>
    intro slot kind absent
    rw [Rulebook.registry_withRegistry]
    by_cases same : category = slot
    · subst same
      have different : kind ≠ default.kind := by
        rintro rfl
        exact absent List.mem_cons_self
      rw [dif_pos rfl, Registry.rule?_of_add added, if_neg different]
    · rw [dif_neg same]
  case policies =>
    intro slot
    rw [Rulebook.registry_withRegistry]
    by_cases same : category = slot
    · subst same
      rw [dif_pos rfl, (Registry.category_of_add added).2]
    · rw [dif_neg same]

/-! ## All rules -/

/-- Nothing but the rules has changed, and some events have been reported. -/
def OnlyRulesChange (session later : Session Kind target) : Prop :=
  ∃ rules events,
    later = { session with compiler := { session.compiler with rules := rules }, events := events }

theorem OnlyRulesChange.trans {session middle later : Session Kind target}
    (first : OnlyRulesChange session middle) (second : OnlyRulesChange middle later) :
    OnlyRulesChange session later := by
  obtain ⟨_, _, rfl⟩ := first
  obtain ⟨rules, events, rfl⟩ := second
  exact ⟨rules, events, rfl⟩

/-- How the installation ends, given the first entry that is refused. -/
def installationAnswer : Option DefaultEntry → Except (Failure Kind target) Unit
  | some entry => .error (.registry (.duplicate entry.1 entry.2.kind))
  | none => .ok ()

theorem addRule_cases {session : Session Kind target} {entry : DefaultEntry} (own : entry.OwnKind)
    (sorted : session.compiler.rules.Sorted) :
    (entry.refusedBy session.compiler.rules = true ∧
      session.addRule entry.1 entry.2.kind entry.2.rule =
        (installationAnswer (some entry), session)) ∨
    ∃ middle, entry.refusedBy session.compiler.rules = false ∧
      session.addRule entry.1 entry.2.kind entry.2.rule = (.ok (), middle) ∧
      Installs [entry] session.compiler.rules middle.compiler.rules ∧
      OnlyRulesChange session middle ∧ middle.compiler.rules.Sorted := by
  unfold Session.addRule
  cases judged : entry.refusedBy session.compiler.rules with
  | true =>
      rw [add_of_refused own sorted judged]
      exact Or.inl ⟨rfl, rfl⟩
  | false =>
      obtain ⟨grown, events, added, installs⟩ := add_of_accepted own sorted judged
      rw [added]
      exact Or.inr ⟨_, rfl, rfl, installs, ⟨grown, _, rfl⟩, sorted.add added⟩

theorem runWith_addEach_cons (calls : Calls Kind target) {entry : DefaultEntry}
    (rest : List DefaultEntry) {session later : Session Kind target}
    {answer : Except (Failure Kind target) Unit}
    (added : session.addRule entry.1 entry.2.kind entry.2.rule = (answer, later)) :
    (addEach (entry :: rest)).runWith calls session =
      match answer with
      | .ok _ => (addEach rest).runWith calls later
      | .error error => some (.error error, later) := by
  have first : (addDefaultRule entry.1 entry.2.kind entry.2.check).runWith calls session =
      some (answer, later) := congrArg some added
  rw [addEach, Script.bind_eq, Script.runWith_bind, first]
  cases answer <;> rfl

/-- Entries of different kinds are added up to the first one that is refused.  What is refused is
settled by the rulebook at the beginning. -/
theorem runWith_addEach (calls : Calls Kind target) (refused : DefaultEntry → Bool)
    (entries : List DefaultEntry) :
    ∀ session : Session Kind target, session.compiler.rules.Sorted →
      (∀ entry ∈ entries, entry.OwnKind) → (entries.map (·.key)).Nodup →
      (∀ entry ∈ entries, entry.refusedBy session.compiler.rules = refused entry) →
        ∃ ended, (addEach entries).runWith calls session =
            some (installationAnswer (entries.find? refused), ended) ∧
          Installs (entries.takeWhile fun entry => !refused entry) session.compiler.rules
            ended.compiler.rules ∧
          OnlyRulesChange session ended ∧
          ((entries.takeWhile fun entry => !refused entry) = [] → ended = session) := by
  induction entries with
  | nil =>
      intro session _ _ _ _
      exact ⟨session, rfl, .nil _, ⟨_, _, rfl⟩, fun _ => rfl⟩
  | cons entry rest inductionHypothesis =>
      intro session sorted own distinct judged
      obtain ⟨ownEntry, ownRest⟩ := List.forall_mem_cons.mp own
      obtain ⟨judgedEntry, judgedRest⟩ := List.forall_mem_cons.mp judged
      obtain ⟨different, distinctRest⟩ := List.nodup_cons.mp distinct
      obtain ⟨refuses, failed⟩ | ⟨middle, accepts, added, installs, changed, middleSorted⟩ :=
        addRule_cases ownEntry sorted
      · rw [judgedEntry] at refuses
        refine ⟨session, ?_, ?_, ⟨_, _, rfl⟩, fun _ => rfl⟩
        · rw [runWith_addEach_cons calls rest failed, List.find?_cons_of_pos refuses]
          rfl
        · rw [List.takeWhile_cons_of_neg (by simp [refuses])]
          exact .nil _
      · rw [judgedEntry] at accepts
        have judgedLater : ∀ later ∈ rest,
            later.refusedBy middle.compiler.rules = refused later := by
          intro later member
          rw [← judgedRest later member]
          refine installs.refusedBy_eq fun same => different ?_
          rw [← List.mem_singleton.mp same]
          exact List.mem_map_of_mem member
        obtain ⟨ended, ranRest, installsRest, changedRest, -⟩ :=
          inductionHypothesis middle middleSorted ownRest distinctRest judgedLater
        rw [List.takeWhile_cons_of_pos (by simp [accepts])]
        refine ⟨ended, ?_, ?_, changed.trans changedRest, fun empty => nomatch empty⟩
        · rw [runWith_addEach_cons calls rest added, List.find?_cons_of_neg (by simp [accepts])]
          exact ranRest
        · refine installs.cons installsRest fun member => different ?_
          exact List.map_subset _ (List.takeWhile_subset _) member

/-- The answer to an installation and what it leaves behind.  Either no entry is refused, and all of
them stand; or the first one that is refused is named, and those before it stand.  Nothing else
changes, and when the very first entry is refused nothing changes at all. -/
inductive Installed (session ended : Session Kind target) :
    Except (Failure Kind target) Unit → Prop
  | complete :
      (∀ entry ∈ defaultEntries, entry.refusedBy session.compiler.rules = false) →
      Installs defaultEntries session.compiler.rules ended.compiler.rules →
      Installed session ended (.ok ())
  | partway {earlier later : List DefaultEntry} {refused : DefaultEntry} :
      defaultEntries = earlier ++ refused :: later →
      (∀ entry ∈ earlier, entry.refusedBy session.compiler.rules = false) →
      refused.refusedBy session.compiler.rules = true →
      Installs earlier session.compiler.rules ended.compiler.rules →
      (earlier = [] → ended = session) →
      Installed session ended (.error (.registry (.duplicate refused.1 refused.2.kind)))

/-- Whatever rules a compiler has got and whatever its registries do with duplicates, installing the
default rules ends.  If no default rule is refused, all of them stand afterwards and the rules of
all other kinds are unchanged.  Otherwise the first default rule that is refused is reported, and
the default rules before it stay installed. -/
theorem addDefaultRules_installs {start : Compiler Kind target} (begins : start.Begins)
    (session : Session Kind target)
    (performed : Relation.ReflTransGen (Compiler.Performs backend) start session.compiler)
    (depth : Nat) :
    ∃ answer ended, session.perform backend depth addDefaultRules = some (answer, ended) ∧
      OnlyRulesChange session ended ∧ Installed session ended answer := by
  have sorted := Compiler.sorted_of_performs performed begins.sorted
  obtain ⟨ended, ran, installs, changed, untouched⟩ :=
    runWith_addEach (.within backend depth) (·.refusedBy session.compiler.rules) defaultEntries
      session sorted (fun _ => ownKind_of_mem) nodup_key_defaultEntries (fun _ _ => rfl)
  rw [← addDefaultRules_eq] at ran
  refine ⟨_, ended, ran, changed, ?_⟩
  cases found : defaultEntries.find? (·.refusedBy session.compiler.rules) with
  | none =>
      have accepted := List.find?_eq_none.mp found
      rw [List.takeWhile_eq_self_iff.mpr (by simpa using accepted)] at installs
      exact .complete (by simpa using accepted) installs
  | some refused =>
      obtain ⟨refuses, earlier, later, split, accepted⟩ := List.find?_eq_some_iff_append.mp found
      have taken : (defaultEntries.takeWhile fun entry =>
          !entry.refusedBy session.compiler.rules) = earlier := by
        rw [split, List.takeWhile_append_of_pos accepted,
          List.takeWhile_cons_of_neg (by simp [refuses]), List.append_nil]
      rw [taken] at installs untouched
      exact .partway split (by simpa using accepted) refuses installs untouched

namespace Occupied

/-- A rule of the compiler's own for outer products. -/
def registrations : List (Registration Kind (Rule Kind target .layer)) :=
  [⟨.kroneckerLayer, fun _ => .done (.error (.pipeline "no outer products"))⟩]

def rules (policy : DuplicatePolicy) : Rulebook Kind target where
  layers :=
    (Registration.performAll Registration.onRegistry registrations (.empty .layer policy)).2
  parameters := .empty .parameter .reject
  initializers := .empty .initializer .overwrite

def session (policy : DuplicatePolicy) : Session Kind target :=
  ⟨⟨({} : State), rules policy, .empty, .empty⟩, #[], {}, []⟩

theorem begins_session (policy : DuplicatePolicy) : (session policy).compiler.Begins :=
  .withRegistries _ _ ⟨.layer, policy, registrations, rfl⟩ ⟨.parameter, .reject, [], rfl⟩
    ⟨.initializer, .overwrite, [], rfl⟩ rfl

end Occupied

/-- A registry that rejects duplicates refuses the fifth rule; one that overwrites takes them
all. -/
theorem addDefaultRules_installs_occupied :
    (∀ policy, (Occupied.session policy).compiler.Begins) ∧
      (∃ ended, (Occupied.session .reject).perform backend 0 addDefaultRules =
          some (.error (.registry (.duplicate .layer .kroneckerLayer)), ended) ∧
        Installed (Occupied.session .reject) ended
          (.error (.registry (.duplicate .layer .kroneckerLayer))) ∧
        ended.compiler.rules.layers.size = 5) ∧
      ∃ ended, (Occupied.session .overwrite).perform backend 0 addDefaultRules =
          some (.ok (), ended) ∧
        Installed (Occupied.session .overwrite) ended (.ok ()) := by
  refine ⟨Occupied.begins_session, ?_, ?_⟩
  · obtain ⟨answer, ended, ran, -, installed⟩ := addDefaultRules_installs
      (Occupied.begins_session .reject) (Occupied.session .reject) .refl 0
    have refused : (Occupied.session .reject).perform backend 0 addDefaultRules =
        some (.error (.registry (.duplicate .layer .kroneckerLayer)), _) := rfl
    cases ran.symm.trans refused
    exact ⟨_, refused, installed, rfl⟩
  · obtain ⟨answer, ended, ran, -, installed⟩ := addDefaultRules_installs
      (Occupied.begins_session .overwrite) (Occupied.session .overwrite) .refl 0
    have accepted : (Occupied.session .overwrite).perform backend 0 addDefaultRules =
        some (.ok (), _) := rfl
    cases ran.symm.trans accepted
    exact ⟨_, accepted, installed⟩

/-- Installing the default rules is not atomic: the rules before the refused one stay. -/
theorem not_addDefaultRules_atomic :
    ¬∀ (start : Compiler Kind target) (session ended : Session Kind target) (depth : Nat)
        (error : Failure Kind target), start.Begins →
          Relation.ReflTransGen (Compiler.Performs backend) start session.compiler →
            session.perform backend depth addDefaultRules = some (.error error, ended) →
              ended.compiler.rules = session.compiler.rules := by
  intro all
  obtain ⟨error, ended, ran, grown⟩ : ∃ error ended,
      (Occupied.session .reject).perform backend 0 addDefaultRules = some (.error error, ended) ∧
        ended.compiler.rules.layers.contains .categoricalLayer = true := ⟨_, _, rfl, rfl⟩
  have same := all _ (Occupied.session .reject) ended 0 error (Occupied.begins_session .reject)
    .refl ran
  rw [same] at grown
  cases grown

end Circuitry.Reference
