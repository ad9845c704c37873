import Circuitry.Proofs.Flag.Settings
import Circuitry.Proofs.Graph.Built
import Circuitry.Proofs.Reference.DefaultRules
import Circuitry.Proofs.Text.ByteOrder
import Circuitry.Workbench.Compilers
import Mathlib.Data.Finset.Card

/-!
# The last value set for a flag counts

Flags are made from nothing, from pairs, from settings and from a variable of the environment, they
are set one by one, and flags are laid over others.  However these steps are nested, they stand for
a list of assignments, and the flags are the map of this list: a name has the value of its last
assignment.  Since laying flags over others joins their lists, the flags given to a new reference
compiler prevail over those of the variable, name by name.
-/

namespace Circuitry

namespace NameMap

variable {α : Type}

/-- What a map tells is what a list of assignments leaves when it is read from left to right.  The
names come in the order of their bytes. -/
structure Remembers (map : NameMap α) (assignments : List (String × α)) : Prop where
  get? : ∀ name, map.get? name = lastOf name assignments
  contains : ∀ name, map.contains name = true ↔ name ∈ assignments.map (·.1)
  size : map.size = (assignments.map (·.1)).toFinset.card
  entry : ∀ name value, (name, value) ∈ map.entries ↔ lastOf name assignments = some value
  once : ∀ name ∈ assignments.map (·.1), (map.entries.map (·.1)).count name = 1
  increasing : (map.entries.map (·.1)).Pairwise fun left right => Text.utf8 left < Text.utf8 right

theorem remembers_ofList (assignments : List (String × α)) :
    Remembers (ofList assignments) assignments := by
  have assigned (name : String) : name ∈ assignments.map (·.1) ↔
      ∃ value, lastOf name assignments = some value := by
    rw [← Option.isSome_iff_exists, Option.isSome_iff_ne_none, Ne, lastOf_eq_none_iff, not_not]
  have names (name : String) : name ∈ (ofList assignments).entries.map (·.1) ↔
      name ∈ assignments.map (·.1) := by
    rw [mem_names_iff, get?_ofList, assigned]
  constructor
  case get? => exact get?_ofList assignments
  case contains =>
    intro name
    rw [NameMap.contains, get?_ofList, assigned, Option.isSome_iff_exists]
  case size =>
    have sameNames : ((ofList assignments).entries.map (·.1)).toFinset =
        (assignments.map (·.1)).toFinset := by
      ext name
      rw [List.mem_toFinset, List.mem_toFinset, names]
    rw [← sameNames, List.toFinset_card_of_nodup (nodup_names _), List.length_map]
    rfl
  case entry =>
    intro name value
    rw [← get?_eq_some_iff, get?_ofList]
  case once =>
    intro name member
    exact List.count_eq_one_of_mem (nodup_names _) ((names name).mpr member)
  case increasing =>
    exact List.pairwise_map.mpr ((ofList assignments).sorted.imp Text.lt_iff_utf8_lt.mp)

end NameMap

namespace Settings

/-- The settings are well formed and bind the names to the values of these pairs, one by one. -/
def BindEach (settings : List (List Char)) (assignments : List (String × FlagValue)) : Prop :=
  List.Forall₂ (fun setting pair => Binds setting pair.1 pair.2) settings assignments

def Assigns (text : String) (assignments : List (String × FlagValue)) : Prop :=
  BindEach (settingsOf text) assignments

theorem exists_bindEach {settings : List (List Char)}
    (wellFormed : ∀ setting ∈ settings, WellFormed setting) :
    ∃ assignments, BindEach settings assignments := by
  induction settings with
  | nil => exact ⟨[], .nil⟩
  | cons setting rest inductionHypothesis =>
      obtain ⟨first, others⟩ := List.forall_mem_cons.mp wellFormed
      obtain ⟨name, value, binds⟩ := wellFormed_iff.mp first
      obtain ⟨assignments, later⟩ := inductionHypothesis others
      exact ⟨(name, value) :: assignments, .cons binds later⟩

theorem BindEach.filterMap_binding? {settings : List (List Char)}
    {assignments : List (String × FlagValue)} (bindEach : BindEach settings assignments) :
    (∀ setting ∈ settings, WellFormed setting) ∧ settings.filterMap binding? = assignments := by
  induction bindEach with
  | nil => exact ⟨List.forall_mem_nil _, rfl⟩
  | cons first _ inductionHypothesis =>
      obtain ⟨others, same⟩ := inductionHypothesis
      refine ⟨List.forall_mem_cons.mpr ⟨wellFormed_iff.mpr ⟨_, _, first⟩, others⟩, ?_⟩
      rw [List.filterMap_cons_some first.binding?_eq, same]

theorem Assigns.ofSettings_eq {text : String} {assignments : List (String × FlagValue)}
    (assigns : Assigns text assignments) : Flags.ofSettings text = .ok (.ofList assignments) := by
  obtain ⟨wellFormed, same⟩ := BindEach.filterMap_binding? assigns
  exact Flags.ofSettings_eq_ok_iff.mpr ⟨wellFormed, by rw [same]⟩

theorem exists_assigns {text : String} {flags : Flags} (read : Flags.ofSettings text = .ok flags) :
    ∃ assignments, Assigns text assignments :=
  exists_bindEach (Flags.ofSettings_eq_ok_iff.mp read).1

theorem settingsOf_of_allBlank {text : String} (blank : Text.AllBlank text.toList) :
    settingsOf text = [] := by
  have comma : ',' ∉ text.toList := blank.not_mem (by decide)
  have alone : text.toList = [','].intercalate [text.toList] := by simp
  rw [settingsOf_intercalate alone (List.forall_mem_singleton.mpr comma),
    remaining_cons_of_blank blank]
  rfl

end Settings

/-- A variable that is blank has no settings, so it needs no treatment of its own. -/
theorem Flags.ofVariable_some (text : String) : ofVariable (some text) = ofSettings text := by
  rw [ofVariable]
  split
  · rename_i blank
    have allBlank : Text.AllBlank text.toList := List.all_eq_true.mp blank
    rw [ofSettings, Settings.pairs_eq_settingsOf, Settings.settingsOf_of_allBlank allBlank]
    rfl
  · rfl

/-- How flags are built: from nothing, by setting a flag, from pairs, from settings, from a variable
of the environment, and by laying flags over others. -/
inductive FlagRecipe
  | new
  | set (base : FlagRecipe) (name : String) (value : FlagValue)
  | ofPairs (pairs : List (String × FlagValue))
  | ofSettings (text : String)
  | ofVariable (setting : Option String)
  | merged (lower upper : FlagRecipe)

namespace FlagRecipe

def build : FlagRecipe → Except FlagError Flags
  | new => .ok .empty
  | set base name value => do
    let flags ← base.build
    return flags.insert name value
  | ofPairs pairs => .ok (.ofList pairs)
  | ofSettings text => Flags.ofSettings text
  | ofVariable setting => Flags.ofVariable setting
  | merged lower upper => do
    let lowerFlags ← lower.build
    let upperFlags ← upper.build
    return lowerFlags.overlay upperFlags

/-- The texts in a recipe are well formed, and these are its assignments from left to right; flags
that are laid over others count as the assignments that built them. -/
inductive Assigns : FlagRecipe → List (String × FlagValue) → Prop
  | new : Assigns new []
  | set {base : FlagRecipe} {before : List (String × FlagValue)} {name : String}
      {value : FlagValue} :
      Assigns base before → Assigns (set base name value) (before ++ [(name, value)])
  | ofPairs {pairs : List (String × FlagValue)} : Assigns (ofPairs pairs) pairs
  | ofSettings {text : String} {assignments : List (String × FlagValue)} :
      Settings.Assigns text assignments → Assigns (ofSettings text) assignments
  | unset : Assigns (ofVariable none) []
  | ofVariable {text : String} {assignments : List (String × FlagValue)} :
      Settings.Assigns text assignments → Assigns (ofVariable (some text)) assignments
  | merged {lower upper : FlagRecipe} {before after : List (String × FlagValue)} :
      Assigns lower before → Assigns upper after →
        Assigns (merged lower upper) (before ++ after)

theorem Assigns.build_eq {recipe : FlagRecipe} {assignments : List (String × FlagValue)}
    (assigns : Assigns recipe assignments) : recipe.build = .ok (.ofList assignments) := by
  induction assigns with
  | new => rfl
  | set _ inductionHypothesis =>
      rw [build, inductionHypothesis, NameMap.ofList_concat]
      rfl
  | ofPairs => rfl
  | ofSettings textAssigns => exact textAssigns.ofSettings_eq
  | unset => rfl
  | ofVariable textAssigns => exact (Flags.ofVariable_some _).trans textAssigns.ofSettings_eq
  | merged _ _ lowerHypothesis upperHypothesis =>
      rw [build, lowerHypothesis, upperHypothesis, NameMap.ofList_append]
      rfl

theorem exists_assigns {recipe : FlagRecipe} {flags : Flags} (built : recipe.build = .ok flags) :
    ∃ assignments, Assigns recipe assignments := by
  induction recipe generalizing flags with
  | new => exact ⟨[], .new⟩
  | set base name value inductionHypothesis =>
      obtain ⟨baseFlags, baseBuilt, -⟩ := ok_of_bind_eq_ok built
      obtain ⟨before, assigns⟩ := inductionHypothesis baseBuilt
      exact ⟨_, assigns.set⟩
  | ofPairs pairs => exact ⟨pairs, .ofPairs⟩
  | ofSettings text =>
      obtain ⟨assignments, assigns⟩ := Settings.exists_assigns built
      exact ⟨assignments, .ofSettings assigns⟩
  | ofVariable setting =>
      cases setting with
      | none => exact ⟨[], .unset⟩
      | some text =>
          obtain ⟨assignments, assigns⟩ :=
            Settings.exists_assigns ((Flags.ofVariable_some text).symm.trans built)
          exact ⟨assignments, .ofVariable assigns⟩
  | merged lower upper lowerHypothesis upperHypothesis =>
      obtain ⟨lowerFlags, lowerBuilt, restBuilt⟩ := ok_of_bind_eq_ok built
      obtain ⟨upperFlags, upperBuilt, -⟩ := ok_of_bind_eq_ok restBuilt
      obtain ⟨before, lowerAssigns⟩ := lowerHypothesis lowerBuilt
      obtain ⟨after, upperAssigns⟩ := upperHypothesis upperBuilt
      exact ⟨_, lowerAssigns.merged upperAssigns⟩

theorem remembers_of_build {recipe : FlagRecipe} {flags : Flags}
    {assignments : List (String × FlagValue)} (built : recipe.build = .ok flags)
    (assigns : Assigns recipe assignments) : flags.Remembers assignments := by
  obtain rfl : NameMap.ofList assignments = flags :=
    Except.ok.inj (assigns.build_eq.symm.trans built)
  exact NameMap.remembers_ofList assignments

end FlagRecipe

/-! ## Flags of a reference compiler -/

namespace Workbench

theorem Hosted.answer_of_perform {α : Type} (hosted : Hosted) {bench : Bench}
    {script : Script Kind hosted.target α} {value : α} {ended : Session Kind hosted.target}
    (ran : Session.perform hosted.platform.backend callDepth script
      ⟨hosted.compiler, bench.events, bench.supply, bench.invocations⟩ = some (.ok value, ended))
    (name : String) (display : α → Answer) :
    ∃ later, hosted.answer bench name script display = (display value, later) ∧
      later.compilers.get? name = some ⟨hosted.platform, ended.compiler⟩ := by
  unfold answer run
  dsimp only
  rw [ran]
  refine ⟨_, rfl, ?_⟩
  rw [NameMap.get?_insert, if_pos rfl]

/-- A reference compiler is made, and its flags are those that are given over those of the
variable. -/
theorem makeStandard_reference (bench : Bench) (name : String) {setting : Option String}
    {lower : Flags} (read : Flags.ofVariable setting = .ok lower) (given : Flags) :
    ∃ later compiler, makeStandard bench name Platform.reference setting given = (.ok, later) ∧
      later.compilers.get? name = some ⟨Platform.reference, compiler⟩ ∧
      compiler.flags = lower.overlay given := by
  let made := makeBare bench name Platform.reference (lower.overlay given)
  obtain ⟨ended, ran, compilerIs⟩ := Reference.runWith_addDefaultRules
    (.within Reference.backend callDepth) { origin := bench.compilersMade } bench.policy
    (lower.overlay given) made.2.events made.2.supply made.2.invocations
  obtain ⟨later, answers, kept⟩ := Hosted.answer_of_perform made.1 ran name fun _ => .ok
  refine ⟨later, ended.compiler, ?_, kept, by rw [compilerIs]⟩
  rw [makeStandard, read]
  exact answers

end Workbench

namespace Flags

/-- Flags can be built when the texts in their recipe are well formed, and then they remember the
assignments of the recipe.  Laying flags over others is associative, and no flags are its identity.
The flags of a new reference compiler have the values that are given, and for the other names those
of the variable. -/
theorem last_assignment_counts :
    (∀ recipe : FlagRecipe,
      ((∃ flags, recipe.build = .ok flags) ↔ ∃ assignments, recipe.Assigns assignments) ∧
      ∀ flags assignments, recipe.build = .ok flags → recipe.Assigns assignments →
        flags.Remembers assignments) ∧
    (∀ lower middle upper : Flags,
      (lower.overlay middle).overlay upper = lower.overlay (middle.overlay upper)) ∧
    (∀ flags : Flags, NameMap.empty.overlay flags = flags ∧ flags.overlay .empty = flags) ∧
    ∀ (bench : Workbench.Bench) (name : String) (setting : Option String)
      (assignments : List (String × FlagValue)) (given : Flags),
      (FlagRecipe.ofVariable setting).Assigns assignments →
        ∃ later compiler,
          Workbench.makeStandard bench name Workbench.Platform.reference setting given =
            (.ok, later) ∧
          later.compilers.get? name = some ⟨Workbench.Platform.reference, compiler⟩ ∧
          ∀ flag, compiler.flags.get? flag = (given.get? flag).or (lastOf flag assignments) := by
  refine ⟨fun recipe => ⟨⟨?_, ?_⟩, ?_⟩, NameMap.overlay_assoc, ?_, ?_⟩
  · rintro ⟨flags, built⟩
    exact FlagRecipe.exists_assigns built
  · rintro ⟨assignments, assigns⟩
    exact ⟨_, assigns.build_eq⟩
  · intro flags assignments built assigns
    exact FlagRecipe.remembers_of_build built assigns
  · exact fun flags => ⟨NameMap.empty_overlay flags, NameMap.overlay_empty flags⟩
  · intro bench name setting assignments given assigns
    obtain ⟨later, compiler, made, kept, flagsAre⟩ :=
      Workbench.makeStandard_reference bench name assigns.build_eq given
    refine ⟨later, compiler, made, kept, fun flag => ?_⟩
    rw [flagsAre, NameMap.get?_overlay, NameMap.get?_ofList]

/-- Flags laid over others that are laid over others. -/
def nestedRecipe : FlagRecipe :=
  .set
    (.merged (.ofSettings "depth=12, fold = x ,depth=low")
      (.merged (.ofPairs [("𝄞", .int 2), ("fold", .text "y")]) (.ofVariable (some "ﬁ=on,depth=9"))))
    "depth" (.int 3)

def nestedAssignments : List (String × FlagValue) :=
  ([("depth", .int 12), ("fold", .text "x"), ("depth", .text "low")] ++
    ([("𝄞", .int 2), ("fold", .text "y")] ++ [("ﬁ", .bool true), ("depth", .int 9)])) ++
  [("depth", .int 3)]

/-- In the order of code units the last two names would be the other way round. -/
def nestedFlags : Flags where
  entries := [("depth", .int 3), ("fold", .text "y"), ("ﬁ", .bool true), ("𝄞", .int 2)]
  sorted := by decide

theorem last_assignment_counts_nested :
    nestedRecipe.build = .ok nestedFlags ∧ nestedRecipe.Assigns nestedAssignments ∧
      nestedFlags.Remembers nestedAssignments ∧
      ∃ later compiler,
        Workbench.makeStandard {} "flagged" Workbench.Platform.reference (some "ﬁ=on,depth=9")
          (.ofList [("depth", .int 2)]) = (.ok, later) ∧
        later.compilers.get? "flagged" = some ⟨Workbench.Platform.reference, compiler⟩ ∧
        compiler.flags.get? "ﬁ" = some (.bool true) ∧
        compiler.flags.get? "depth" = some (.int 2) := by
  have built : nestedRecipe.build = .ok nestedFlags := by decide +kernel
  have lowerAssigns : Settings.Assigns "depth=12, fold = x ,depth=low"
      [("depth", .int 12), ("fold", .text "x"), ("depth", .text "low")] := by
    have settings : Settings.settingsOf "depth=12, fold = x ,depth=low" =
        ["depth=12".toList, "fold = x".toList, "depth=low".toList] := by decide
    rw [Settings.Assigns, settings]
    exact .cons (Settings.binding?_eq_some_iff.mp (by decide)) <|
      .cons (Settings.binding?_eq_some_iff.mp (by decide)) <|
        .cons (Settings.binding?_eq_some_iff.mp (by decide)) .nil
  have upperAssigns : Settings.Assigns "ﬁ=on,depth=9" [("ﬁ", .bool true), ("depth", .int 9)] := by
    have settings : Settings.settingsOf "ﬁ=on,depth=9" =
        ["ﬁ=on".toList, "depth=9".toList] := by decide
    rw [Settings.Assigns, settings]
    exact .cons (Settings.binding?_eq_some_iff.mp (by decide)) <|
      .cons (Settings.binding?_eq_some_iff.mp (by decide)) .nil
  have assigns : nestedRecipe.Assigns nestedAssignments :=
    .set (.merged (.ofSettings lowerAssigns) (.merged .ofPairs (.ofVariable upperAssigns)))
  obtain ⟨later, compiler, made, kept, flagsAre⟩ :=
    last_assignment_counts.2.2.2 {} "flagged" _ _ (.ofList [("depth", .int 2)])
      (.ofVariable upperAssigns)
  refine ⟨built, assigns, (last_assignment_counts.1 nestedRecipe).2 _ _ built assigns,
    later, compiler, made, kept, ?_, ?_⟩
  · rw [flagsAre]
    decide
  · rw [flagsAre]
    decide

end Flags

end Circuitry
