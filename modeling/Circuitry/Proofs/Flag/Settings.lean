import Circuitry.Flag.Settings
import Circuitry.Proofs.NameMap.Entries
import Circuitry.Proofs.Text.Trimming
import Mathlib.Data.List.Basic

/-!
# The grammar of settings

A text is cut at its commas, and what is left of the trimmed pieces are its settings.  A setting is
well formed when a name that is not blank stands in front of its first equals sign.  Reading is
successful when all settings are well formed, and then the last setting of a name counts; otherwise
the first setting that is not well formed is reported.  Since settings are read one by one, a text
that is joined from two by a comma is read as the second laid over the first.
-/

namespace Circuitry

theorem FlagValue.ofChars_congr {left right : List Char}
    (same : Text.trimChars left = Text.trimChars right) :
    FlagValue.ofChars left = FlagValue.ofChars right := by
  unfold FlagValue.ofChars
  rw [same]

namespace Settings

theorem segments_eq_splitOn (separator : Char) (chars : List Char) :
    segments separator chars = chars.splitOn separator := by
  induction chars with
  | nil => rfl
  | cons char rest inductionHypothesis =>
      rw [segments, List.splitOn_cons_eq_if_modifyHead, inductionHypothesis]
      by_cases same : char = separator
      · rw [if_pos same, if_pos (beq_iff_eq.mpr same)]
      · rw [if_neg same, if_neg (mt beq_iff_eq.mp same)]
        cases cut : rest.splitOn separator with
        | nil => exact absurd cut (List.splitOn_ne_nil _ _)
        | cons first others => rfl

/-- The trimmed pieces of which something is left. -/
def remaining (pieces : List (List Char)) : List (List Char) :=
  (pieces.map Text.trimChars).filter (· ≠ [])

/-- The settings of a text are what is left of the pieces between its commas. -/
def settingsOf (text : String) : List (List Char) :=
  remaining (text.toList.splitOn ',')

theorem pairs_eq_settingsOf (text : String) : pairs text.toList = settingsOf text := by
  unfold pairs settingsOf remaining
  rw [segments_eq_splitOn]
  refine List.filter_congr fun segment _ => ?_
  cases segment <;> rfl

theorem settingsOf_append_comma (left right : String) :
    settingsOf (left ++ "," ++ right) = settingsOf left ++ settingsOf right := by
  have joined : (left ++ "," ++ right).toList = left.toList ++ ',' :: right.toList := by
    simp
  unfold settingsOf remaining
  rw [joined, List.splitOn_append_cons_self, List.map_append, List.filter_append]

/-- The setting is cut at its first equals sign. -/
structure CutAt (setting name raw : List Char) : Prop where
  parts : setting = name ++ '=' :: raw
  first : '=' ∉ name

/-- There is an equals sign, and what stands before the first one is not blank. -/
def WellFormed (setting : List Char) : Prop :=
  ∃ name raw, CutAt setting name raw ∧ ¬Text.AllBlank name

/-- A well-formed setting gives its trimmed name the value that stands behind the equals sign. -/
def Binds (setting : List Char) (name : String) (value : FlagValue) : Prop :=
  ∃ left raw, CutAt setting left raw ∧ ¬Text.AllBlank left ∧
    name = String.ofList (Text.trimChars left) ∧ value = FlagValue.ofChars raw

/-- What is wrong with a setting: it has no equals sign, or nothing but blanks before the first. -/
inductive Faulty (setting : List Char) : FlagError → Prop
  | missingValue : '=' ∉ setting → Faulty setting (.missingValue (String.ofList setting))
  | emptyName {name raw : List Char} : CutAt setting name raw → Text.AllBlank name →
      Faulty setting (.emptyName (String.ofList setting))

theorem splitAtEquals_eq_none_iff {chars : List Char} :
    splitAtEquals chars = none ↔ '=' ∉ chars := by
  induction chars with
  | nil => simp [splitAtEquals]
  | cons char rest inductionHypothesis =>
      rw [splitAtEquals, List.mem_cons, not_or]
      by_cases equals : char = '='
      · simp [equals]
      · rw [if_neg equals, Option.map_eq_none_iff, inductionHypothesis]
        exact (and_iff_right (Ne.symm equals)).symm

theorem splitAtEquals_append {name : List Char} (first : '=' ∉ name) (raw : List Char) :
    splitAtEquals (name ++ '=' :: raw) = some (name, raw) := by
  induction name with
  | nil => rfl
  | cons char rest inductionHypothesis =>
      obtain ⟨different, firstInRest⟩ := List.ne_and_not_mem_of_not_mem_cons first
      rw [List.cons_append, splitAtEquals, if_neg (Ne.symm different),
        inductionHypothesis firstInRest, Option.map_some]

theorem splitAtEquals_eq_some_iff {setting name raw : List Char} :
    splitAtEquals setting = some (name, raw) ↔ CutAt setting name raw := by
  constructor
  · intro found
    have equals : '=' ∈ setting := by
      by_contra missing
      rw [splitAtEquals_eq_none_iff.mpr missing] at found
      contradiction
    obtain ⟨before, after, rfl, first⟩ := List.eq_append_cons_of_mem equals
    rw [splitAtEquals_append first] at found
    cases found
    exact ⟨rfl, first⟩
  · rintro ⟨rfl, first⟩
    exact splitAtEquals_append first raw

theorem Binds.readPair_eq {setting : List Char} {name : String} {value : FlagValue}
    (binds : Binds setting name value) : readPair setting = .ok (name, value) := by
  obtain ⟨left, raw, cut, named, rfl, rfl⟩ := binds
  rw [readPair, splitAtEquals_eq_some_iff.mpr cut]
  simp only [List.isEmpty_iff, Text.trimChars_eq_nil_iff, if_neg named]

theorem Faulty.readPair_eq {setting : List Char} {error : FlagError}
    (faulty : Faulty setting error) : readPair setting = .error error := by
  cases faulty with
  | missingValue noEquals => rw [readPair, splitAtEquals_eq_none_iff.mpr noEquals]
  | emptyName cut blank =>
      rw [readPair, splitAtEquals_eq_some_iff.mpr cut]
      simp only [List.isEmpty_iff, Text.trimChars_eq_nil_iff, if_pos blank]

theorem wellFormed_iff {setting : List Char} :
    WellFormed setting ↔ ∃ name value, Binds setting name value := by
  constructor
  · rintro ⟨left, raw, cut, named⟩
    exact ⟨_, _, left, raw, cut, named, rfl, rfl⟩
  · rintro ⟨name, value, left, raw, cut, named, -, -⟩
    exact ⟨left, raw, cut, named⟩

theorem wellFormed_or_faulty (setting : List Char) :
    WellFormed setting ∨ ∃ error, Faulty setting error := by
  by_cases equals : '=' ∈ setting
  · obtain ⟨left, raw, parts, first⟩ := List.eq_append_cons_of_mem equals
    have cut : CutAt setting left raw := ⟨parts, first⟩
    by_cases blank : Text.AllBlank left
    · exact Or.inr ⟨_, .emptyName cut blank⟩
    · exact Or.inl ⟨left, raw, cut, blank⟩
  · exact Or.inr ⟨_, .missingValue equals⟩

/-- The name and the value that a setting gives, if it is well formed. -/
def binding? (setting : List Char) : Option (String × FlagValue) :=
  (readPair setting).toOption

/-- What is wrong with a setting, if anything is. -/
def fault? (setting : List Char) : Option FlagError :=
  match readPair setting with
  | .ok _ => none
  | .error error => some error

section Verdict

variable {setting : List Char} {name : String} {value : FlagValue} {error : FlagError}

theorem Binds.binding?_eq (binds : Binds setting name value) :
    binding? setting = some (name, value) := by
  rw [binding?, binds.readPair_eq]
  rfl

theorem Faulty.binding?_eq (faulty : Faulty setting error) : binding? setting = none := by
  rw [binding?, faulty.readPair_eq]
  rfl

theorem WellFormed.fault?_eq (wellFormed : WellFormed setting) : fault? setting = none := by
  obtain ⟨name, value, binds⟩ := wellFormed_iff.mp wellFormed
  rw [fault?, binds.readPair_eq]

theorem Faulty.fault?_eq (faulty : Faulty setting error) : fault? setting = some error := by
  rw [fault?, faulty.readPair_eq]

theorem binding?_eq_some_iff :
    binding? setting = some (name, value) ↔ Binds setting name value := by
  refine ⟨fun found => ?_, Binds.binding?_eq⟩
  rcases wellFormed_or_faulty setting with wellFormed | ⟨error, faulty⟩
  · obtain ⟨ownName, ownValue, binds⟩ := wellFormed_iff.mp wellFormed
    rw [binds.binding?_eq] at found
    cases found
    exact binds
  · rw [faulty.binding?_eq] at found
    contradiction

theorem fault?_eq_some_iff : fault? setting = some error ↔ Faulty setting error := by
  refine ⟨fun found => ?_, Faulty.fault?_eq⟩
  rcases wellFormed_or_faulty setting with wellFormed | ⟨ownError, faulty⟩
  · rw [wellFormed.fault?_eq] at found
    contradiction
  · rw [faulty.fault?_eq] at found
    cases found
    exact faulty

theorem fault?_eq_none_iff : fault? setting = none ↔ WellFormed setting := by
  refine ⟨fun sound => ?_, WellFormed.fault?_eq⟩
  rcases wellFormed_or_faulty setting with wellFormed | ⟨error, faulty⟩
  · exact wellFormed
  · rw [faulty.fault?_eq] at sound
    contradiction

end Verdict

/-! ## All settings -/

/-- The last setting of a name gives it a value. -/
def LastBinds (settings : List (List Char)) (name : String) (value : FlagValue) : Prop :=
  ∃ earlier setting later, settings = earlier ++ setting :: later ∧ Binds setting name value ∧
    ∀ other ∈ later, ∀ otherValue, ¬Binds other name otherValue

/-- The first setting that is not well formed is at fault. -/
def FirstFault (settings : List (List Char)) (error : FlagError) : Prop :=
  ∃ earlier setting later, settings = earlier ++ setting :: later ∧ Faulty setting error ∧
    ∀ other ∈ earlier, WellFormed other

/-- Settings are bound in turn, unless one of them is faulty. -/
theorem bindPairs_eq (flags : Flags) (settings : List (List Char)) :
    bindPairs flags settings =
      match settings.findSome? fault? with
      | some error => .error error
      | none => .ok (flags.insertAll (settings.filterMap binding?)) := by
  induction settings generalizing flags with
  | nil => rfl
  | cons setting rest inductionHypothesis =>
      rw [bindPairs, List.findSome?_cons, List.filterMap_cons, fault?, binding?]
      cases readPair setting with
      | error error => rfl
      | ok entry => exact inductionHypothesis (flags.insert entry.1 entry.2)

theorem ofSettings_eq (text : String) :
    Flags.ofSettings text =
      match (settingsOf text).findSome? fault? with
      | some error => .error error
      | none => .ok (.ofList ((settingsOf text).filterMap binding?)) := by
  rw [Flags.ofSettings, pairs_eq_settingsOf, bindPairs_eq]
  rfl

theorem findSome?_fault?_eq_some_iff {settings : List (List Char)} {error : FlagError} :
    settings.findSome? fault? = some error ↔ FirstFault settings error := by
  simp only [List.findSome?_eq_some_iff, fault?_eq_some_iff, fault?_eq_none_iff]
  rfl

theorem findSome?_fault?_eq_none_iff {settings : List (List Char)} :
    settings.findSome? fault? = none ↔ ∀ setting ∈ settings, WellFormed setting := by
  simp only [List.findSome?_eq_none_iff, fault?_eq_none_iff]

theorem lastOf_eq_some_iff_lastBinds {settings : List (List Char)} {name : String}
    {value : FlagValue} :
    lastOf name (settings.filterMap binding?) = some value ↔ LastBinds settings name value := by
  rw [lastOf_eq_some_iff]
  constructor
  · rintro ⟨earlier, later, split, others⟩
    obtain ⟨before, rest, rfl, -, restEntries⟩ := List.filterMap_eq_append_iff.mp split
    obtain ⟨skipped, setting, after, rfl, -, binds, afterEntries⟩ :=
      List.filterMap_eq_cons_iff.mp restEntries
    refine ⟨before ++ skipped, setting, after, by simp, binding?_eq_some_iff.mp binds, ?_⟩
    intro other member otherValue otherBinds
    have entry : (name, otherValue) ∈ later := by
      rw [← afterEntries]
      exact List.mem_filterMap.mpr ⟨other, member, binding?_eq_some_iff.mpr otherBinds⟩
    exact others _ entry rfl
  · rintro ⟨earlier, setting, later, rfl, binds, others⟩
    refine ⟨earlier.filterMap binding?, later.filterMap binding?, ?_, ?_⟩
    · rw [List.filterMap_append, List.filterMap_cons_some (binding?_eq_some_iff.mpr binds)]
    · rintro ⟨otherName, otherValue⟩ member rfl
      obtain ⟨other, inLater, found⟩ := List.mem_filterMap.mp member
      exact others other inLater otherValue (binding?_eq_some_iff.mp found)

/-- A name that is not blank, without commas and equals signs, and a raw value without commas. -/
structure IsPair (name raw : String) : Prop where
  named : ¬Text.AllBlank name.toList
  noComma : ',' ∉ name.toList
  noEquals : '=' ∉ name.toList
  rawNoComma : ',' ∉ raw.toList

/-- The pieces between commas spell pairs of names and raw values: around each name and each raw
value there may be blanks, and so may blank pieces between the pairs. -/
inductive Spells : List (List Char) → List (String × String) → Prop
  | nil : Spells [] []
  | blank {piece : List Char} {pieces : List (List Char)} {written : List (String × String)} :
      Text.AllBlank piece → Spells pieces written → Spells (piece :: pieces) written
  | pair {front between behind back : List Char} {name raw : String}
      {pieces : List (List Char)} {written : List (String × String)} :
      Text.AllBlank front → Text.AllBlank between → Text.AllBlank behind → Text.AllBlank back →
      IsPair name raw → Spells pieces written →
      Spells ((front ++ name.toList ++ between ++ '=' :: (behind ++ raw.toList ++ back)) :: pieces)
        ((name, raw) :: written)

theorem Spells.noComma {pieces : List (List Char)} {written : List (String × String)}
    (spells : Spells pieces written) : ∀ piece ∈ pieces, ',' ∉ piece := by
  have mark : Text.isBlank ',' = false := by decide
  induction spells with
  | nil => exact List.forall_mem_nil _
  | blank allBlank _ inductionHypothesis =>
      exact List.forall_mem_cons.mpr ⟨allBlank.not_mem mark, inductionHypothesis⟩
  | pair front between behind back isPair _ inductionHypothesis =>
      refine List.forall_mem_cons.mpr ⟨?_, inductionHypothesis⟩
      simp [front.not_mem mark, between.not_mem mark, behind.not_mem mark, back.not_mem mark,
        isPair.noComma, isPair.rawNoComma]

/-- A setting with blanks around its name and around its raw value binds as it does without. -/
theorem binds_trimmed {left : List Char} (noEquals : '=' ∉ left)
    (named : ¬Text.AllBlank left) (raw : List Char) :
    Binds (Text.trimChars (left ++ '=' :: raw)) (String.ofList (Text.trimChars left))
      (FlagValue.ofChars raw) := by
  have mark : Text.isBlank '=' = false := by decide
  refine ⟨left.dropWhile Text.isBlank, raw.rdropWhile Text.isBlank, ⟨?_, ?_⟩, ?_, ?_, ?_⟩
  · exact Text.trimChars_append_cons mark
  · exact fun member => noEquals (List.dropWhile_subset _ member)
  · rwa [← Text.trimChars_eq_nil_iff, Text.trimChars_dropWhile, Text.trimChars_eq_nil_iff]
  · rw [Text.trimChars_dropWhile]
  · exact (FlagValue.ofChars_congr (Text.trimChars_rdropWhile raw)).symm

theorem remaining_cons_of_blank {piece : List Char} (blank : Text.AllBlank piece)
    (pieces : List (List Char)) : remaining (piece :: pieces) = remaining pieces := by
  unfold remaining
  rw [List.map_cons, Text.trimChars_eq_nil_iff.mpr blank]
  rfl

theorem remaining_cons_of_binds {piece : List Char} {name : String} {value : FlagValue}
    (binds : Binds (Text.trimChars piece) name value) (pieces : List (List Char)) :
    remaining (piece :: pieces) = Text.trimChars piece :: remaining pieces := by
  have nonempty : Text.trimChars piece ≠ [] := by
    obtain ⟨left, raw, cut, -⟩ := binds
    rw [cut.parts]
    exact List.append_ne_nil_of_right_ne_nil _ (List.cons_ne_nil _ _)
  unfold remaining
  rw [List.map_cons]
  exact List.filter_cons_of_pos (decide_eq_true nonempty)

section Pair

variable {front between behind back : List Char} {name raw : String}

theorem IsPair.binds (isPair : IsPair name raw) (frontBlank : Text.AllBlank front)
    (betweenBlank : Text.AllBlank between) (behindBlank : Text.AllBlank behind)
    (backBlank : Text.AllBlank back) :
    Binds
      (Text.trimChars
        (front ++ name.toList ++ between ++ '=' :: (behind ++ raw.toList ++ back)))
      (Text.trim name) (FlagValue.parse raw) := by
  have mark : Text.isBlank '=' = false := by decide
  have left : Text.trimChars (front ++ name.toList ++ between) = Text.trimChars name.toList := by
    rw [Text.trimChars_append_blank betweenBlank, Text.trimChars_blank_append frontBlank]
  have right : Text.trimChars (behind ++ raw.toList ++ back) = Text.trimChars raw.toList := by
    rw [Text.trimChars_append_blank backBlank, Text.trimChars_blank_append behindBlank]
  have noEquals : '=' ∉ front ++ name.toList ++ between := by
    simp [frontBlank.not_mem mark, betweenBlank.not_mem mark, isPair.noEquals]
  have named : ¬Text.AllBlank (front ++ name.toList ++ between) := by
    rw [← Text.trimChars_eq_nil_iff, left, Text.trimChars_eq_nil_iff]
    exact isPair.named
  have binds := binds_trimmed noEquals named (behind ++ raw.toList ++ back)
  rwa [left, FlagValue.ofChars_congr right] at binds

end Pair

/-- From pieces that spell pairs nothing is left but settings that bind these in turn. -/
theorem Spells.settings {pieces : List (List Char)} {written : List (String × String)}
    (spells : Spells pieces written) :
    (∀ setting ∈ remaining pieces, WellFormed setting) ∧
      (remaining pieces).filterMap binding? =
        written.map fun pair => (Text.trim pair.1, FlagValue.parse pair.2) := by
  induction spells with
  | nil => exact ⟨List.forall_mem_nil _, rfl⟩
  | blank allBlank _ inductionHypothesis => rwa [remaining_cons_of_blank allBlank]
  | pair front between behind back isPair _ inductionHypothesis =>
      obtain ⟨wellFormed, entries⟩ := inductionHypothesis
      have binds := isPair.binds front between behind back
      rw [remaining_cons_of_binds binds]
      refine ⟨List.forall_mem_cons.mpr ⟨wellFormed_iff.mpr ⟨_, _, binds⟩, wellFormed⟩, ?_⟩
      rw [List.filterMap_cons_some binds.binding?_eq, entries, List.map_cons]

theorem settingsOf_intercalate {text : String} {pieces : List (List Char)}
    (joined : text.toList = [','].intercalate pieces) (noComma : ∀ piece ∈ pieces, ',' ∉ piece) :
    settingsOf text = remaining pieces := by
  rw [settingsOf, joined]
  cases pieces with
  | nil => rfl
  | cons first others => rw [List.splitOn_intercalate ',' noComma (List.cons_ne_nil _ _)]

end Settings

/-! ## The grammar -/

namespace Flags

open Settings

theorem ofSettings_eq_ok_iff {text : String} {flags : Flags} :
    ofSettings text = .ok flags ↔
      (∀ setting ∈ settingsOf text, WellFormed setting) ∧
        flags = .ofList ((settingsOf text).filterMap binding?) := by
  rw [Settings.ofSettings_eq, ← findSome?_fault?_eq_none_iff]
  cases (settingsOf text).findSome? fault? with
  | some error => simp
  | none => simp [eq_comm]

theorem ofSettings_eq_error_iff {text : String} {error : FlagError} :
    ofSettings text = .error error ↔ FirstFault (settingsOf text) error := by
  rw [Settings.ofSettings_eq, ← findSome?_fault?_eq_some_iff]
  cases (settingsOf text).findSome? fault? with
  | some error => simp
  | none => simp

theorem ofSettings_of_spells {text : String} {pieces : List (List Char)}
    {written : List (String × String)} (joined : text.toList = [','].intercalate pieces)
    (spells : Spells pieces written) :
    ofSettings text =
      .ok (.ofList (written.map fun pair => (Text.trim pair.1, FlagValue.parse pair.2))) := by
  obtain ⟨wellFormed, entries⟩ := spells.settings
  rw [← settingsOf_intercalate joined spells.noComma] at wellFormed entries
  exact ofSettings_eq_ok_iff.mpr ⟨wellFormed, by rw [entries]⟩

/-- Flags are read from a text exactly when all its settings are well formed, and then each name has
the value of its last setting; otherwise the error is that of the first faulty setting, which it
names.  In particular every way to write pairs down is read as these pairs. -/
theorem ofSettings_grammar (text : String) :
    ((∃ flags, ofSettings text = .ok flags) ↔
      ∀ setting ∈ settingsOf text, WellFormed setting) ∧
    (∀ flags, ofSettings text = .ok flags → ∀ name value,
      flags.get? name = some value ↔ LastBinds (settingsOf text) name value) ∧
    (∀ error, ofSettings text = .error error ↔ FirstFault (settingsOf text) error) ∧
    (∀ setting error, Faulty setting error →
      error.subject = String.ofList setting ∧
        error.reason = some (if '=' ∈ setting then "empty flag name"
          else "expected `name=value`")) ∧
    ∀ pieces written, text.toList = [','].intercalate pieces → Spells pieces written →
      ofSettings text =
        .ok (.ofList (written.map fun pair => (Text.trim pair.1, FlagValue.parse pair.2))) := by
  refine ⟨?_, ?_, fun error => ofSettings_eq_error_iff, ?_, ?_⟩
  · simp only [ofSettings_eq_ok_iff, exists_and_left, exists_eq, and_true]
  · intro flags read name value
    obtain ⟨-, rfl⟩ := ofSettings_eq_ok_iff.mp read
    rw [NameMap.get?_ofList, lastOf_eq_some_iff_lastBinds]
  · intro setting error faulty
    cases faulty with
    | missingValue noEquals => exact ⟨rfl, by rw [if_neg noEquals]; rfl⟩
    | emptyName cut blank =>
        have equals : '=' ∈ setting := by simp [cut.parts]
        exact ⟨rfl, by rw [if_pos equals]; rfl⟩
  · exact fun pieces written joined spells => ofSettings_of_spells joined spells

/-- Blanks around names and values, blank pieces, an equals sign in a value and a name that is bound
again; and a fault in front of another one. -/
theorem ofSettings_grammar_spaced :
    ofSettings " a = 7 ,,\u3000b=x=y ,a= inf," =
        .ok (.ofList [("a", .int 7), ("b", .text "x=y"), ("a", .float (.infinity false))]) ∧
      ofSettings "a=1, =2 ,b" = .error (.emptyName "=2") := by
  constructor
  · have blank : Text.AllBlank [' '] := by decide
    have wideBlank : Text.AllBlank ['\u3000'] := by decide
    have nothing : Text.AllBlank [] := Text.allBlank_nil
    have first : IsPair "a" "7" := ⟨by decide, by decide, by decide, by decide⟩
    have second : IsPair "b" "x=y" := ⟨by decide, by decide, by decide, by decide⟩
    have third : IsPair "a" "inf" := ⟨by decide, by decide, by decide, by decide⟩
    have spells : Spells _ [("a", "7"), ("b", "x=y"), ("a", "inf")] :=
      .pair blank blank blank blank first <| .blank nothing <|
        .pair wideBlank nothing nothing blank second <|
          .pair nothing nothing blank nothing third <| .blank nothing .nil
    rw [(ofSettings_grammar _).2.2.2.2 _ _ (by decide) spells]
    decide
  · have wellFormed : WellFormed ['a', '=', '1'] := ⟨['a'], ['1'], ⟨rfl, by decide⟩, by decide⟩
    have cut : CutAt ['=', '2'] [] ['2'] := ⟨rfl, by decide⟩
    have fault : FirstFault (settingsOf "a=1, =2 ,b") (.emptyName "=2") :=
      ⟨[['a', '=', '1']], ['=', '2'], [['b']], by decide, .emptyName cut Text.allBlank_nil,
        List.forall_mem_singleton.mpr wellFormed⟩
    exact ((ofSettings_grammar _).2.2.1 _).mpr fault

/-- Settings that follow others behind a comma are laid over these; the first error counts. -/
theorem ofSettings_append_comma (left right : String) :
    ofSettings (left ++ "," ++ right) =
      match ofSettings left, ofSettings right with
      | .ok lower, .ok upper => .ok (lower.overlay upper)
      | .error error, _ => .error error
      | .ok _, .error error => .error error := by
  rw [Settings.ofSettings_eq, Settings.ofSettings_eq, Settings.ofSettings_eq,
    settingsOf_append_comma, List.findSome?_append, List.filterMap_append]
  cases (settingsOf left).findSome? fault? with
  | some error => rfl
  | none =>
      cases (settingsOf right).findSome? fault? with
      | some error => rfl
      | none =>
          rw [NameMap.ofList_append]
          rfl

end Flags

end Circuitry
