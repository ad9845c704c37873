/-!
Blank characters and trimming.

Blank means the Unicode property White_Space: twenty-five characters.  Trimming is defined on
lists of characters, where its laws are stated, and lifted to strings.
-/

namespace Circuitry.Text

/-- The code points with the property White_Space. -/
def blankCodes : List Nat :=
  [0x09, 0x0A, 0x0B, 0x0C, 0x0D, 0x20, 0x85, 0xA0, 0x1680,
   0x2000, 0x2001, 0x2002, 0x2003, 0x2004, 0x2005, 0x2006, 0x2007, 0x2008, 0x2009, 0x200A,
   0x2028, 0x2029, 0x202F, 0x205F, 0x3000]

/-- Whether a character has the property White_Space. -/
def isBlank (char : Char) : Bool :=
  blankCodes.contains char.toNat

/-- Drops the blank characters at both ends. -/
def trimChars (chars : List Char) : List Char :=
  ((chars.dropWhile isBlank).reverse.dropWhile isBlank).reverse

/-- Drops the blank characters at both ends of a string. -/
def trim (text : String) : String :=
  String.ofList (trimChars text.toList)

/-- Whether a string has no character besides blank ones. -/
def isAllBlank (text : String) : Bool :=
  text.toList.all isBlank

end Circuitry.Text
