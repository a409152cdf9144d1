/-
**White space and trimming.**

The blanks are the characters with the Unicode property `White_Space`.

Main definitions

* `Blank.isBlank` — whether a character is white space;
* `Blank.trimChars`, `Blank.trim` — characters and text without the blanks at their ends.
-/

set_option relaxedAutoImplicit false
set_option autoImplicit false

namespace SpanIntake.Blank

/-- Whether a character has the property `White_Space`. -/
def isBlank (c : Char) : Bool :=
  let n := c.toNat
  (9 ≤ n && n ≤ 13) || n == 0x20 || n == 0x85 || n == 0xA0 || n == 0x1680
    || (0x2000 ≤ n && n ≤ 0x200A) || n == 0x2028 || n == 0x2029 || n == 0x202F || n == 0x205F
    || n == 0x3000

/-- Characters without leading blanks. -/
def dropBlanks (cs : List Char) : List Char := cs.dropWhile isBlank

/-- Characters without leading and trailing blanks. -/
def trimChars (cs : List Char) : List Char := (dropBlanks (dropBlanks cs).reverse).reverse

/-- A text without leading and trailing blanks. -/
def trim (s : String) : String := String.ofList (trimChars s.toList)

end SpanIntake.Blank
