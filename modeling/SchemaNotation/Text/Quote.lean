import SchemaNotation.Text.Printable

/-! Texts quoted as literals, the way system messages show file names and values.

A text goes in single quotes, or in double quotes when it holds a single quote and no double
quote. Inside, the backslash and the chosen quote are escaped, tab, line feed and carriage
return take their short escapes, and other characters that do not print are written as `\x`,
`\u` or `\U` with two, four or eight hex digits. -/

namespace SchemaNotation.Text

/-- Lowercase hex digits of a number, at least `width` of them. -/
def hexDigits (n width : Nat) : String :=
  let ds := Nat.toDigits 16 n
  String.ofList (List.replicate (width - ds.length) '0' ++ ds)

/-- The escaped form of a character inside a literal quoted by `q`. -/
def escapeIn (q : Char) (c : Char) : String :=
  if c == '\\' then "\\\\"
  else if c == q then "\\" ++ c.toString
  else if c == '\t' then "\\t"
  else if c == '\n' then "\\n"
  else if c == '\r' then "\\r"
  else if isUnprintable c then
    let n := c.toNat
    if n < 0x100 then "\\x" ++ hexDigits n 2
    else if n < 0x10000 then "\\u" ++ hexDigits n 4
    else "\\U" ++ hexDigits n 8
  else c.toString

/-- A text quoted as a literal. -/
def quoteLiteral (s : String) : String :=
  let q := if s.toList.contains '\'' && !s.toList.contains '"' then '"' else '\''
  q.toString ++ String.join (s.toList.map (escapeIn q)) ++ q.toString

example : quoteLiteral "mmd" = "'mmd'" ∧ quoteLiteral "it's" = "\"it's\"" ∧
    quoteLiteral "a\nb" = "'a\\nb'" := by decide +kernel

end SchemaNotation.Text
