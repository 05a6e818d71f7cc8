/-! Blank characters and the trimming of texts.

A blank is a character of Unicode whitespace: the ASCII controls tab to carriage return and the
four information separators, the space, the next-line control, and the space separators of
other scripts (no-break space, ogham space, the en and em spaces and their kin, the line and
paragraph separators, the narrow no-break space, the mathematical space and the ideographic
space). The zero-width space and the byte-order mark are not blank. Trimming removes blanks at
either end. -/

namespace SchemaNotation.Text

/-- Whether a character is Unicode whitespace. -/
def isBlank (c : Char) : Bool :=
  let n := c.toNat
  (0x09 ≤ n && n ≤ 0x0D) || (0x1C ≤ n && n ≤ 0x20) || n == 0x85 || n == 0xA0 || n == 0x1680 ||
    (0x2000 ≤ n && n ≤ 0x200A) || n == 0x2028 || n == 0x2029 || n == 0x202F || n == 0x205F ||
    n == 0x3000

/-- The characters left after dropping blanks at the start. -/
def dropBlanks (cs : List Char) : List Char := cs.dropWhile isBlank

/-- The characters left after dropping blanks at both ends. -/
def trimList (cs : List Char) : List Char :=
  (dropBlanks (dropBlanks cs).reverse).reverse

/-- A text without blanks at its start. -/
def trimStart (s : String) : String := String.ofList (dropBlanks s.toList)

/-- A text without blanks at its end. -/
def trimEnd (s : String) : String := String.ofList (dropBlanks s.toList.reverse).reverse

/-- A text without blanks at either end. -/
def trim (s : String) : String := String.ofList (trimList s.toList)

/-- Whether a text holds blanks only (the empty text included). -/
def isBlankText (s : String) : Bool := s.toList.all isBlank

example : trim "\u3000 a b \t" = "a b" ∧ trim "\u200Bx" = "\u200Bx" ∧ isBlankText "\x1c \x85" := by
  decide

end SchemaNotation.Text
