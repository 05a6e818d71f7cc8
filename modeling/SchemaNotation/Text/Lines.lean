/-! Splitting a text into lines.

A line ends at a line feed, a carriage return, a carriage return followed by a line feed (one
break), the vertical tab, the form feed, the file, group and record separators, the next-line
control, or the line and paragraph separators. The break is not part of the line, and a break at
the very end of the text opens no further, empty line. -/

namespace SchemaNotation.Text

/-- Whether a character ends a line. -/
def isLineBreak (c : Char) : Bool :=
  let n := c.toNat
  (0x0A ≤ n && n ≤ 0x0D) || (0x1C ≤ n && n ≤ 0x1E) || n == 0x85 || n == 0x2028 || n == 0x2029

/-- Lines of the characters `cs`, the current line so far being `acc` in reverse. -/
def linesFrom : List Char → List Char → List String
  | [], acc => if acc.isEmpty then [] else [String.ofList acc.reverse]
  | '\r' :: '\n' :: rest, acc => String.ofList acc.reverse :: linesFrom rest []
  | c :: rest, acc =>
    if isLineBreak c then String.ofList acc.reverse :: linesFrom rest []
    else linesFrom rest (c :: acc)

/-- The lines of a text. -/
def lines (s : String) : List String := linesFrom s.toList []

example : lines "a\r\nb\n\nc\n" = ["a", "b", "", "c"] ∧ lines "" = [] ∧ lines "\n" = [""] ∧
    lines "x y\x85z" = ["x", "y", "z"] := by decide

end SchemaNotation.Text
