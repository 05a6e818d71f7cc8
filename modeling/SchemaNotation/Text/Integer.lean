import SchemaNotation.Text.Alnum
import SchemaNotation.Text.Blank

/-! Reading whole numbers written in decimal.

A number is an optional sign followed by decimal digits of any script, which single underscores
may group; blanks around it are ignored. Nothing else is accepted: no point, exponent, base
prefix or empty digit string. Numbers of more than 4300 digits are refused, as a guard against
reading huge texts. -/

namespace SchemaNotation.Text

/-- The most digits a number may have. -/
def maxDigits : Nat := 4300

/-- The value of the digits `cs`, accumulated onto `acc`, and their count added to `count`.
Single underscores may stand between digits; `afterDigit` tells whether the last character read
was a digit, which an underscore or the end needs. -/
def readDigits : List Char → Nat → Nat → Bool → Option (Nat × Nat)
  | [], acc, count, afterDigit => if afterDigit then some (acc, count) else none
  | c :: rest, acc, count, afterDigit =>
    if c = '_' then
      if afterDigit then readDigits rest acc count false else none
    else
      match decimalValue? c with
      | some d => readDigits rest (acc * 10 + d) (count + 1) true
      | none => none

/-- The whole number that a text spells, if it spells one. -/
def readInt? (s : String) : Option Int :=
  let (negative, digits) :=
    match trimList s.toList with
    | '-' :: rest => (true, rest)
    | '+' :: rest => (false, rest)
    | cs => (false, cs)
  match readDigits digits 0 0 false with
  | some (n, count) => if count ≤ maxDigits then some (if negative then -(n : Int) else n) else none
  | none => none

example : readInt? " 007 " = some 7 ∧ readInt? "+1" = some 1 ∧ readInt? "-0" = some 0 ∧
    readInt? "1_000" = some 1000 ∧ readInt? "٣" = some 3 ∧ readInt? "１２" = some 12 := by
  decide +kernel

example : readInt? "1.0" = none ∧ readInt? "0x1" = none ∧ readInt? "1e3" = none ∧
    readInt? "" = none ∧ readInt? "*" = none ∧ readInt? "1__0" = none ∧ readInt? "_1" = none ∧
    readInt? "1_" = none ∧ readInt? "- 1" = none := by
  decide +kernel

end SchemaNotation.Text
