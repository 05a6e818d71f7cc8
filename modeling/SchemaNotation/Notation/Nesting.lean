import SchemaNotation.Text.Blank

/-! Brackets, quotes and inline comments.

The four pairs of brackets `()`, `<>`, `{}` and `[]` nest. `splitTopLevel` cuts a text at a
separator that stands outside every bracket and every quotation in single or double quotes.
`splitComment` cuts off an inline comment: a `#` outside brackets right after a space.
`balanced` tells whether every closing bracket matches the last open one and none stays open. -/

namespace SchemaNotation.Notation

/-- Whether a character opens a bracket. -/
def isOpener (c : Char) : Bool := c == '(' || c == '<' || c == '{' || c == '['

/-- Whether a character closes a bracket. -/
def isCloser (c : Char) : Bool := c == ')' || c == '>' || c == '}' || c == ']'

/-- The closing bracket of an opening one. -/
def closerOf : Char → Char
  | '(' => ')'
  | '<' => '>'
  | '{' => '}'
  | _ => ']'

/-- Whether a character opens a quotation. -/
def isQuote (c : Char) : Bool := c == '"' || c == '\''

/-- The parts of `cs` between top-level separators: `depth` counts open brackets, `quote` is the
mark of an open quotation, `part` the current part in reverse, `done` the parts before it in
reverse. -/
def splitFrom (sep : String) : List Char → Nat → Option Char → List Char → List String → List String
  | [], _, _, part, done => (String.ofList part.reverse :: done).reverse
  | c :: rest, depth, some q, part, done =>
    splitFrom sep rest depth (if c == q then none else some q) (c :: part) done
  | c :: rest, depth, none, part, done =>
    if isQuote c then splitFrom sep rest depth (some c) (c :: part) done
    else if isOpener c then splitFrom sep rest (depth + 1) none (c :: part) done
    else if isCloser c && depth > 0 then splitFrom sep rest (depth - 1) none (c :: part) done
    else if c.toString == sep && depth == 0 then
      splitFrom sep rest depth none [] (String.ofList part.reverse :: done)
    else splitFrom sep rest depth none (c :: part) done

/-- The parts of a text between separators that stand outside brackets and quotations. A
separator of other than one character never matches. -/
def splitTopLevel (s : String) (sep : String) : List String :=
  splitFrom sep s.toList 0 none [] []

/-- The inline comment of `cs`: `before` holds the characters read so far in reverse, `depth`
the open brackets. -/
def commentFrom : List Char → List Char → Nat → Option (List Char × List Char)
  | [], _, _ => none
  | c :: rest, before, depth =>
    if isOpener c then commentFrom rest (c :: before) (depth + 1)
    else if isCloser c && depth > 0 then commentFrom rest (c :: before) (depth - 1)
    else if c == '#' && depth == 0 && before.head? == some ' ' then
      some (before.tail.reverse, rest)
    else commentFrom rest (c :: before) depth

/-- A text cut at its inline comment: the content without trailing blanks, and the comment
trimmed, if there is one. -/
def splitComment (s : String) : String × Option String :=
  match commentFrom s.toList [] 0 with
  | some (content, comment) =>
    (Text.trimEnd (String.ofList content), some (Text.trim (String.ofList comment)))
  | none => (Text.trimEnd s, none)

/-- Whether the brackets of `cs` balance, `owed` holding the closers still due. -/
def balancedFrom : List Char → List Char → Bool
  | [], owed => owed.isEmpty
  | c :: rest, owed =>
    if isOpener c then balancedFrom rest (closerOf c :: owed)
    else if isCloser c then
      match owed with
      | d :: more => d == c && balancedFrom rest more
      | [] => false
    else balancedFrom rest owed

/-- Whether every closing bracket of a text matches the last open one and none stays open. -/
def balanced (s : String) : Bool := balancedFrom s.toList []

example : splitTopLevel "a, Decimal(10,2), \"x,y\"" "," = ["a", " Decimal(10,2)", " \"x,y\""] ∧
    splitTopLevel "a,b" ",," = ["a,b"] ∧ splitTopLevel "" "," = [""] := by decide

example : splitComment "x : Int [DEFAULT:\"a #1\"] # note " =
      ("x : Int [DEFAULT:\"a #1\"]", some "note") ∧
    splitComment "a#b" = ("a#b", none) := by decide

example : balanced "Array<Map(a,[b])>" ∧ !balanced "(]" ∧ !balanced "((" := by decide

end SchemaNotation.Notation
