import Circuitry.Text.Blank
import Mathlib.Data.List.DropRight

/-!
# Trimming

Blank characters at the ends make no difference to what trimming leaves, and a character that is not
blank keeps all that stands between it and its like.
-/

namespace Circuitry.Text

def AllBlank (chars : List Char) : Prop :=
  ∀ char ∈ chars, isBlank char = true

instance (chars : List Char) : Decidable (AllBlank chars) :=
  List.decidableBAll _ chars

theorem allBlank_nil : AllBlank [] := List.forall_mem_nil _

theorem AllBlank.not_mem {chars : List Char} (blank : AllBlank chars) {char : Char}
    (mark : isBlank char = false) : char ∉ chars :=
  fun member => Bool.false_ne_true (mark.symm.trans (blank char member))

theorem trimChars_eq (chars : List Char) :
    trimChars chars = (chars.dropWhile isBlank).rdropWhile isBlank := rfl

theorem trimChars_eq_nil_iff {chars : List Char} : trimChars chars = [] ↔ AllBlank chars := by
  rw [trimChars_eq, List.rdropWhile_eq_nil_iff]
  constructor
  · intro blank char member
    rw [← List.takeWhile_append_dropWhile (p := isBlank) (l := chars)] at member
    rcases List.mem_append.mp member with front | back
    · exact List.mem_takeWhile_imp front
    · exact blank char back
  · intro blank
    rw [List.dropWhile_eq_nil_iff.mpr blank]
    exact List.forall_mem_nil _

variable {before chars after left right : List Char}

theorem rdropWhile_append_blank (blank : AllBlank after) :
    (chars ++ after).rdropWhile isBlank = chars.rdropWhile isBlank := by
  have blankBackwards : ∀ char ∈ after.reverse, isBlank char = true :=
    fun char member => blank char (List.mem_reverse.mp member)
  unfold List.rdropWhile
  rw [List.reverse_append, List.dropWhile_append_of_pos blankBackwards]

theorem trimChars_blank_append (blank : AllBlank before) :
    trimChars (before ++ chars) = trimChars chars := by
  rw [trimChars_eq, trimChars_eq, List.dropWhile_append_of_pos blank]

theorem trimChars_append_blank (blank : AllBlank after) :
    trimChars (chars ++ after) = trimChars chars := by
  by_cases blankChars : AllBlank chars
  · rw [trimChars_eq_nil_iff.mpr blankChars, trimChars_eq_nil_iff]
    exact List.forall_mem_append.mpr ⟨blankChars, blank⟩
  · have remains : (chars.dropWhile isBlank).isEmpty = false := by
      rw [List.isEmpty_eq_false_iff]
      exact mt List.dropWhile_eq_nil_iff.mp blankChars
    rw [trimChars_eq, trimChars_eq, List.dropWhile_append, remains]
    exact rdropWhile_append_blank blank

theorem trimChars_dropWhile (chars : List Char) :
    trimChars (chars.dropWhile isBlank) = trimChars chars := by
  rw [trimChars_eq, trimChars_eq, List.dropWhile_idempotent]

theorem trimChars_rdropWhile (chars : List Char) :
    trimChars (chars.rdropWhile isBlank) = trimChars chars := by
  have blank : AllBlank (chars.rtakeWhile isBlank) := fun char => List.mem_rtakeWhile_imp
  calc trimChars (chars.rdropWhile isBlank)
      = trimChars (chars.rdropWhile isBlank ++ chars.rtakeWhile isBlank) :=
        (trimChars_append_blank blank).symm
    _ = trimChars chars := by rw [List.rdropWhile_append_rtakeWhile]

theorem dropWhile_append_cons {char : Char} (mark : isBlank char = false) :
    (left ++ char :: right).dropWhile isBlank = left.dropWhile isBlank ++ char :: right := by
  have stays : (char :: right).dropWhile isBlank = char :: right :=
    List.dropWhile_cons_of_neg (Bool.eq_false_iff.mp mark)
  rw [List.dropWhile_append, stays]
  split
  · next empty => rw [List.isEmpty_iff.mp empty, List.nil_append]
  · rfl

theorem trimChars_append_cons {char : Char} (mark : isBlank char = false) :
    trimChars (left ++ char :: right) =
      left.dropWhile isBlank ++ char :: right.rdropWhile isBlank := by
  have backwards : ∀ front : List Char,
      (front ++ char :: right).reverse = right.reverse ++ char :: front.reverse := by
    intro front
    simp
  rw [trimChars_eq, dropWhile_append_cons mark, List.rdropWhile, backwards,
    dropWhile_append_cons mark]
  simp [List.rdropWhile]

/-- Characters that are not blank at either end are left as they are. -/
theorem trimChars_eq_self (first : ∀ char ∈ chars.head?, isBlank char = false)
    (last : ∀ char ∈ chars.getLast?, isBlank char = false) : trimChars chars = chars := by
  have front : chars.dropWhile isBlank = chars := by
    refine List.dropWhile_eq_self_iff.mpr fun nonempty => ?_
    rw [first _ (List.head?_eq_getElem? ▸ List.getElem?_eq_getElem nonempty)]
    exact Bool.false_ne_true
  rw [trimChars_eq, front, List.rdropWhile_eq_self_iff]
  intro nonempty
  rw [last _ (List.getLast?_eq_some_getLast nonempty)]
  exact Bool.false_ne_true

end Circuitry.Text
