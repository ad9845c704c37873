import Circuitry.Catalogue.Kind
import Mathlib.Data.List.Basic

/-!
# Short names

A full name is a path of segments, and may go on with arguments that hold paths and arguments
again.  The path has no angle bracket and the arguments start with one, so the first bracket tells
them apart, and no double colon of the arguments is taken for one of the path.
-/

namespace Circuitry

namespace TypePath

/-- A segment of a path; it may be empty. -/
def IsSegment (segment : String) : Prop :=
  ':' ∉ segment.toList ∧ '<' ∉ segment.toList

/-- Arguments in angle brackets, of which only the first is needed, or none. -/
def IsArguments (arguments : String) : Prop :=
  arguments = "" ∨ ∃ text, arguments = "<" ++ text

theorem afterLastColons_cons (char : Char) {rest : List Char} (noColon : ':' ∉ rest) :
    afterLastColons (char :: rest) = none := by
  induction rest generalizing char with
  | nil => rfl
  | cons next rest inductionHypothesis =>
      have missing := inductionHypothesis next (mt (List.mem_cons_of_mem next) noColon)
      rw [afterLastColons.eq_def]
      simp only [missing]
      refine if_neg fun colons => noColon ?_
      rw [colons.2]
      exact List.mem_cons_self

theorem afterLastColons_of_not_mem {segment : List Char} (noColon : ':' ∉ segment) :
    afterLastColons segment = none := by
  cases segment with
  | nil => rfl
  | cons char rest => exact afterLastColons_cons char (mt (List.mem_cons_of_mem char) noColon)

theorem afterLastColons_append (front : List Char) {segment : List Char}
    (noColon : ':' ∉ segment) :
    afterLastColons (front ++ ':' :: ':' :: segment) = some segment := by
  induction front with
  | nil =>
      rw [List.nil_append, afterLastColons.eq_def]
      simp only [afterLastColons_cons ':' noColon]
      rfl
  | cons char front inductionHypothesis =>
      rw [List.cons_append, afterLastColons.eq_def]
      simp only [inductionHypothesis]

/-- What stands behind the double colons of a path, if there are any. -/
theorem afterLastColons_intercalate (path : List String) {segment : String}
    (noColon : ':' ∉ segment.toList) :
    afterLastColons ("::".intercalate (path ++ [segment])).toList =
      if path = [] then none else some segment.toList := by
  by_cases single : path = []
  · rw [if_pos single, single, List.nil_append, String.intercalate_singleton]
    exact afterLastColons_of_not_mem noColon
  · rw [if_neg single, String.intercalate_append_of_ne_nil single (List.cons_ne_nil _ _),
      String.intercalate_singleton, String.append_assoc, String.toList_append, String.toList_append]
    exact afterLastColons_append _ noColon

theorem bracket_not_mem_intercalate {segments : List String}
    (noBracket : ∀ segment ∈ segments, '<' ∉ segment.toList) :
    '<' ∉ ("::".intercalate segments).toList := by
  induction segments with
  | nil => simp
  | cons first rest inductionHypothesis =>
      obtain ⟨firstFree, restFree⟩ := List.forall_mem_cons.mp noBracket
      cases rest with
      | nil => rwa [String.intercalate_singleton]
      | cons second rest =>
          rw [String.intercalate_cons_cons]
          simpa [firstFree] using inductionHypothesis restFree

theorem IsArguments.toList_cases {text : String} (written : IsArguments text) :
    text.toList = [] ∨ ∃ rest, text.toList = '<' :: rest := by
  rcases written with rfl | ⟨rest, rfl⟩
  · exact Or.inl rfl
  · exact Or.inr ⟨rest.toList, String.toList_append⟩

theorem head_append {path text : List Char} (noBracket : '<' ∉ path)
    (written : text = [] ∨ ∃ rest, text = '<' :: rest) : head (path ++ text) = path := by
  have kept : ∀ char ∈ path, decide (char ≠ '<') = true := fun char member =>
    decide_eq_true fun bracket => noBracket (bracket ▸ member)
  unfold head
  rw [List.takeWhile_append_of_pos kept]
  rcases written with rfl | ⟨rest, rfl⟩
  · rw [List.takeWhile_nil, List.append_nil]
  · rw [List.takeWhile_cons_of_neg (by decide), List.append_nil]

theorem arguments_append {path text : List Char} (noBracket : '<' ∉ path)
    (written : text = [] ∨ ∃ rest, text = '<' :: rest) : arguments (path ++ text) = text := by
  have whole : head (path ++ text) ++ arguments (path ++ text) = path ++ text :=
    List.takeWhile_append_dropWhile
  rw [head_append noBracket written] at whole
  exact List.append_cancel_left whole

theorem short_of_none {name : String} (missing : afterLastColons (head name.toList) = none) :
    short name = name := by
  rw [short, shortChars, missing, String.ofList_toList]

theorem short_of_some {name : String} {segment : List Char}
    (found : afterLastColons (head name.toList) = some segment) :
    short name = String.ofList (segment ++ arguments name.toList) := by
  rw [short, shortChars, found]

end TypePath

namespace Vocabulary

open TypePath

/-- The short name of a kind is the last segment of its name with all that stands in its arguments,
and the name itself where the path has a single segment. -/
theorem shortName_of_path {κ : Type} [Vocabulary κ] {kind : κ} {path : List String}
    {segment arguments : String} (segments : ∀ part ∈ path ++ [segment], IsSegment part)
    (written : IsArguments arguments)
    (named : name kind = "::".intercalate (path ++ [segment]) ++ arguments) :
    shortName kind = segment ++ arguments ∧ (path = [] → shortName kind = name kind) := by
  have noBracket := bracket_not_mem_intercalate fun part member => (segments part member).2
  have noColon := (segments segment (List.mem_append_right path List.mem_cons_self)).1
  have behind := afterLastColons_intercalate path noColon
  rw [← head_append noBracket written.toList_cases, ← String.toList_append, ← named] at behind
  by_cases single : path = []
  · have whole : shortName kind = name kind := short_of_none (by rw [behind, if_pos single])
    refine ⟨?_, fun _ => whole⟩
    rw [whole, named, single, List.nil_append, String.intercalate_singleton]
  · refine ⟨?_, fun empty => absurd empty single⟩
    rw [shortName, short_of_some (by rw [behind, if_neg single]), named, String.toList_append,
      arguments_append noBracket written.toList_cases, ← String.toList_append,
      String.ofList_toList]

/-- The arguments of the kind are a path with arguments of its own. -/
theorem shortName_of_path_nested :
    (∀ part ∈ ["oracle_driver", "kinds"] ++ ["Wrap"], IsSegment part) ∧
      IsArguments "<oracle_driver::kinds::Wrap<oracle_driver::recording_support::Leaf>>" ∧
      name (Kind.wrapped (.wrapped .leaf)) =
        "::".intercalate (["oracle_driver", "kinds"] ++ ["Wrap"]) ++
          "<oracle_driver::kinds::Wrap<oracle_driver::recording_support::Leaf>>" ∧
      shortName (Kind.wrapped (.wrapped .leaf)) =
        "Wrap<oracle_driver::kinds::Wrap<oracle_driver::recording_support::Leaf>>" := by
  have segments : ∀ part ∈ ["oracle_driver", "kinds"] ++ ["Wrap"], IsSegment part := by
    unfold IsSegment
    decide
  have written :
      IsArguments "<oracle_driver::kinds::Wrap<oracle_driver::recording_support::Leaf>>" :=
    Or.inr ⟨"oracle_driver::kinds::Wrap<oracle_driver::recording_support::Leaf>>", rfl⟩
  exact ⟨segments, written, rfl, (shortName_of_path segments written rfl).1⟩

end Vocabulary

end Circuitry
