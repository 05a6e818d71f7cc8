/-! Finding one text inside another.

`breakOn?` cuts a text at the first occurrence of a separator; `Text.contains` asks whether one
occurs at all. Both compare character by character. -/

namespace SchemaNotation.Text

/-- The characters before and after the first occurrence of `sep` in a list. -/
def breakList? (sep : List Char) : List Char → Option (List Char × List Char)
  | [] => if sep.isEmpty then some ([], []) else none
  | c :: rest =>
    if sep.isPrefixOf (c :: rest) then some ([], (c :: rest).drop sep.length)
    else (breakList? sep rest).map fun (before, after) => (c :: before, after)

/-- The text before and after the first occurrence of `sep`, if it occurs. -/
def breakOn? (s sep : String) : Option (String × String) :=
  (breakList? sep.toList s.toList).map fun (before, after) => (String.ofList before, String.ofList after)

/-- Whether `part` occurs in `s`. -/
def contains (s part : String) : Bool := (breakList? part.toList s.toList).isSome

/-- The text with its first `n` characters dropped. -/
def dropChars (s : String) (n : Nat) : String := String.ofList (s.toList.drop n)

/-- The first `n` characters of a text. -/
def takeChars (s : String) (n : Nat) : String := String.ofList (s.toList.take n)

example : breakOn? "A -> B -> C" "->" = some ("A ", " B -> C") ∧ breakOn? "AB" "->" = none ∧
    contains "0..*" ".." := by decide

end SchemaNotation.Text
