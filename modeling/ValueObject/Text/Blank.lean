/-
# ValueObject.Text.Blank -- blank characters and trimming

A character is **blank** when it has the Unicode property White_Space. Trimming takes the blanks
off both ends of a text and leaves those inside alone.
-/

import ValueObject.Text.Ranges

namespace ValueObject.Text

/-- The ranges of White_Space. -/
def blankRanges : Ranges := [
  (0x9, 0xD), (0x20, 0x20), (0x85, 0x85), (0xA0, 0xA0), (0x1680, 0x1680), (0x2000, 0x200A),
  (0x2028, 0x2029), (0x202F, 0x202F), (0x205F, 0x205F), (0x3000, 0x3000)]

/-- Has the property **White_Space**. -/
def isBlank (c : Char) : Bool :=
  blankRanges.contains c

/-! ## Trimming a list of characters -/

/-- Without the blanks at the end. -/
def trimEnd (cs : List Char) : List Char :=
  (cs.reverse.dropWhile isBlank).reverse

/-- Without the blanks at either end. -/
def trimChars (cs : List Char) : List Char :=
  trimEnd (cs.dropWhile isBlank)

/-! ## Trimming a string -/

/-- **Without the blanks at either end.** -/
def trim (s : String) : String :=
  String.ofList (trimChars s.toList)

@[simp]
theorem toList_trim (s : String) : (trim s).toList = trimChars s.toList := by
  simp [trim]

/-- Nothing is left of the text once it is trimmed. -/
def isBlankText (s : String) : Bool :=
  (trim s).isEmpty

/-- The trimmed text, unless nothing is left of it. -/
def trimmed? (s : Option String) : Option String :=
  (s.map trim).filter (!·.isEmpty)

end ValueObject.Text
