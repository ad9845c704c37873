import Circuitry.Text.Blank

/-!
The spellings of a truth value: four words for true and four for false, in any ASCII case and
with blank characters around them.
-/

namespace Circuitry.Text

/-- The words that mean true. -/
def trueWords : List (List Char) :=
  [['1'], ['t', 'r', 'u', 'e'], ['y', 'e', 's'], ['o', 'n']]

/-- The words that mean false. -/
def falseWords : List (List Char) :=
  [['0'], ['f', 'a', 'l', 's', 'e'], ['n', 'o'], ['o', 'f', 'f']]

/-- The truth value that a text spells. -/
def truth? (chars : List Char) : Option Bool :=
  let word := (trimChars chars).map Char.toLower
  if trueWords.contains word then some true
  else if falseWords.contains word then some false
  else none

end Circuitry.Text
