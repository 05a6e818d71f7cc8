/-! JSON values and their indented, ASCII-only text.

Objects keep their keys in the order given. The text puts each member of a non-empty array or
object on a line of its own, indented two spaces per level, with `": "` after keys; an empty
array is `[]` and an empty object `{}`. Strings escape the quote, the backslash and the control
characters, with short forms for backspace, form feed, line feed, carriage return and tab, and
write every character outside printable ASCII as `\u` and four lowercase hex digits, a character
beyond the basic plane as its UTF-16 surrogate pair. -/

namespace SchemaNotation

/-- A JSON value. Numbers are whole. -/
inductive Json where
  | null
  | bool (b : Bool)
  | num (n : Int)
  | str (s : String)
  | arr (items : List Json)
  | obj (members : List (String × Json))
deriving BEq, Repr, Inhabited

namespace Json

/-- A text, or nothing as `null`. -/
def optStr : Option String → Json
  | some s => .str s
  | none => .null

/-- A list of texts. -/
def strs (xs : List String) : Json := .arr (xs.map .str)

/-- Four lowercase hex digits of a number below 65536. -/
def hex4 (n : Nat) : String :=
  let digit (k : Nat) : Char := if k < 10 then Char.ofNat (48 + k) else Char.ofNat (87 + k)
  String.ofList [digit (n / 4096 % 16), digit (n / 256 % 16), digit (n / 16 % 16), digit (n % 16)]

/-- The escaped form of one character inside a string. -/
def escapeChar (c : Char) : String :=
  match c with
  | '"' => "\\\""
  | '\\' => "\\\\"
  | '\n' => "\\n"
  | '\r' => "\\r"
  | '\t' => "\\t"
  | '\x08' => "\\b"
  | '\x0c' => "\\f"
  | _ =>
    let n := c.toNat
    if 0x20 ≤ n && n < 0x7F then c.toString
    else if n < 0x10000 then "\\u" ++ hex4 n
    else
      let m := n - 0x10000
      "\\u" ++ hex4 (0xD800 + m / 1024) ++ "\\u" ++ hex4 (0xDC00 + m % 1024)

/-- A string in quotes, escaped. -/
def quote (s : String) : String := "\"" ++ String.join (s.toList.map escapeChar) ++ "\""

/-- Spaces that indent the given level. -/
def pad (level : Nat) : String := String.ofList (List.replicate (2 * level) ' ')

mutual
/-- The indented text of a value at the given nesting level. -/
def render (level : Nat) : Json → String
  | .null => "null"
  | .bool true => "true"
  | .bool false => "false"
  | .num n => toString n
  | .str s => quote s
  | .arr [] => "[]"
  | .arr (x :: xs) => "[\n" ++ renderItems (level + 1) (x :: xs) ++ "\n" ++ pad level ++ "]"
  | .obj [] => "\x7b\x7d"
  | .obj (m :: ms) => "\x7b\n" ++ renderMembers (level + 1) (m :: ms) ++ "\n" ++ pad level ++ "\x7d"

/-- The lines of array items at the given level, separated by commas. -/
def renderItems (level : Nat) : List Json → String
  | [] => ""
  | [x] => pad level ++ render level x
  | x :: xs => pad level ++ render level x ++ ",\n" ++ renderItems level xs

/-- The lines of object members at the given level, separated by commas. -/
def renderMembers (level : Nat) : List (String × Json) → String
  | [] => ""
  | [(k, v)] => pad level ++ quote k ++ ": " ++ render level v
  | (k, v) :: ms => pad level ++ quote k ++ ": " ++ render level v ++ ",\n" ++ renderMembers level ms
end

/-- The indented text of a value. -/
def pretty (j : Json) : String := render 0 j

example : pretty (.obj [("a", .arr [.num 1, .str "é"]), ("b", .obj [])]) =
    "\x7b\n  \"a\": [\n    1,\n    \"\\u00e9\"\n  ],\n  \"b\": \x7b\x7d\n\x7d" := by decide

end Json

end SchemaNotation
