import SchemaNotation.Text.Blank
import SchemaNotation.Text.Search

/-! Environment files: lines `KEY=value` that set environment variables.

A statement is an optional `export`, a key (bare, or in single quotes), and optionally `=` and a
value; a `#` starts a comment. A value is bare (up to the end of the line, less a comment that a
blank introduces, and less trailing blanks), in single quotes (where `\\` and `\'` are escapes),
or in double quotes (where a backslash escapes the usual control letters and quotes). Inside
quotes a backslash pairs with the character after it, so a quote after a backslash does not end
the value. A key without `=` has no value. A statement that does not parse is skipped with a
warning naming the line it starts on. References `${NAME}` and `${NAME:-default}` in values are replaced by the
values of earlier keys or of the environment. -/

namespace SchemaNotation.Dotenv

open Text

/-- Whether a character is a blank other than a line break. -/
def isInlineBlank (c : Char) : Bool := isBlank c && c != '\n' && c != '\r'

/-- A reading position: the characters left and the current line number. -/
structure Cursor where
  rest : List Char
  line : Nat

namespace Cursor

/-- The cursor after `n` characters. -/
def advance (c : Cursor) (n : Nat) : Cursor :=
  ⟨c.rest.drop n, c.line + ((c.rest.take n).filter (· == '\n')).length⟩

/-- The cursor after the characters that satisfy `p`. -/
def skipWhile (c : Cursor) (p : Char → Bool) : Cursor := c.advance (c.rest.takeWhile p).length

/-- The cursor after the rest of the line and its line break. -/
def skipLine (c : Cursor) : Cursor :=
  let c := c.skipWhile fun ch => ch != '\n'
  if c.rest.isEmpty then c else c.advance 1

end Cursor

/-- One parsed statement: a key with its value, or nothing (a comment or the end). -/
inductive Statement where
  | binding (key : String) (value : Option String)
  | blank

/-- Replaces escapes in a quoted value: `escapes` lists the characters a backslash may escape,
with what each stands for. -/
def unescape (escapes : List (Char × Char)) : List Char → List Char
  | '\\' :: c :: rest =>
    match escapes.lookup c with
    | some d => d :: unescape escapes rest
    | none => '\\' :: unescape escapes (c :: rest)
  | c :: rest => c :: unescape escapes rest
  | [] => []

/-- Escapes inside single quotes. -/
def singleEscapes : List (Char × Char) := [('\\', '\\'), ('\'', '\'')]

/-- Escapes inside double quotes. -/
def doubleEscapes : List (Char × Char) :=
  [('\\', '\\'), ('\'', '\''), ('"', '"'), ('a', '\x07'), ('b', '\x08'), ('f', '\x0c'),
    ('n', '\n'), ('r', '\r'), ('t', '\t'), ('v', '\x0b')]

/-- The length of a quoted body: the body ends at the first quote `q` outside a backslash
pair, where a backslash pairs with the character after it unless that is a line break. A body
with no such quote, or with a backslash before a line break or at the end, has no length. -/
def quotedLength (q : Char) : List Char → Option Nat
  | [] => none
  | '\\' :: d :: rest => if d == '\n' then none else (quotedLength q rest).map (· + 2)
  | c :: rest =>
    if c == q then some 0 else if c == '\\' then none else (quotedLength q rest).map (· + 1)

/-- A bare value: the line less a comment after blanks and less trailing blanks. -/
def bareValue (part : List Char) : String :=
  let rec cut : List Char → List Char
    | [] => []
    | c :: rest =>
      if isBlank c then
        match rest.dropWhile isBlank with
        | '#' :: _ => []
        | _ => c :: cut rest
      else c :: cut rest
  trimEnd (String.ofList (cut part))

/-- Reads a value at the cursor: its text and the cursor after it, or the cursor where it
fails. A `#` after blanks (`spaced`) starts a comment, so the value is empty. -/
def readValue (spaced : Bool) (c : Cursor) : Except Cursor (String × Cursor) :=
  match c.rest with
  | '\'' :: rest => quoted '\'' singleEscapes rest
  | '"' :: rest => quoted '"' doubleEscapes rest
  | [] | '\n' :: _ => .ok ("", c)
  | '#' :: _ => if spaced then .ok ("", c) else bare
  | _ => bare
where
  /-- A bare value, up to the end of the line. -/
  bare : Except Cursor (String × Cursor) :=
    let part := c.rest.takeWhile (· != '\n')
    .ok (bareValue part, c.advance part.length)
  /-- A value in quotes `q`. -/
  quoted (q : Char) (escapes : List (Char × Char)) (rest : List Char) :
      Except Cursor (String × Cursor) :=
    match quotedLength q rest with
    | some n => .ok (String.ofList (unescape escapes (rest.take n)), c.advance (n + 2))
    | none => .error c

/-- Reads the end of a statement: blanks, an optional comment and the line break. -/
def readEnd (c : Cursor) : Except Cursor Cursor :=
  let c := c.skipWhile isInlineBlank
  let c := match c.rest with
    | '#' :: _ => c.skipWhile (· != '\n')
    | _ => c
  match c.rest with
  | [] => .ok c
  | '\n' :: _ => .ok (c.advance 1)
  | _ => .error c

/-- Reads a key at the cursor: none for a comment. -/
def readKey (c : Cursor) : Except Cursor (Option String × Cursor) :=
  match c.rest with
  | '#' :: _ => .ok (none, c)
  | '\'' :: rest =>
    let key := rest.takeWhile (· != '\'')
    if key.isEmpty || key.length == rest.length then .error c
    else .ok (some (String.ofList key), c.advance (key.length + 2))
  | _ =>
    let key := c.rest.takeWhile fun ch => ch != '=' && ch != '#' && !isBlank ch
    if key.isEmpty then .error c else .ok (some (String.ofList key), c.advance key.length)

/-- Skips an `export` keyword followed by blanks. -/
def skipExport (c : Cursor) : Cursor :=
  match c.rest with
  | 'e' :: 'x' :: 'p' :: 'o' :: 'r' :: 't' :: d :: _ =>
    if isInlineBlank d then (c.advance 6).skipWhile isInlineBlank else c
  | _ => c

/-- Reads one statement: the statement and the cursor after it, or the cursor where it
fails. -/
def readStatement (c : Cursor) : Except Cursor (Statement × Cursor) := do
  let c := c.skipWhile isBlank
  if c.rest.isEmpty then return (.blank, c)
  let c := skipExport c
  let (key, c) ← readKey c
  let c := c.skipWhile isInlineBlank
  let (value, c) ← match c.rest with
    | '=' :: _ =>
      let sign := c.advance 1
      let c := sign.skipWhile isInlineBlank
      (readValue (c.rest.length < sign.rest.length) c).map fun (v, c) => (some v, c)
    | _ => .ok (none, c)
  let c ← readEnd c
  match key with
  | some k => return (.binding k value, c)
  | none => return (.blank, c)

/-- The statements of a text, at most `fuel` of them, and the lines on which the statements
that fail to parse start. A failed statement is skipped to the end of the line it fails on. -/
def statements : Nat → Cursor → List Statement × List Nat
  | 0, _ => ([], [])
  | fuel + 1, c =>
    if c.rest.isEmpty then ([], [])
    else
      match readStatement c with
      | .ok (s, next) =>
        let (ss, broken) := statements fuel next
        (s :: ss, broken)
      | .error stop =>
        let (ss, broken) := statements fuel stop.skipLine
        (ss, c.line :: broken)

/-- Dropping a prefix never makes a list longer. -/
theorem length_dropWhile_le (p : Char → Bool) (cs : List Char) :
    (cs.dropWhile p).length ≤ cs.length := by
  induction cs with
  | nil => simp
  | cons c rest ih =>
    rw [List.dropWhile_cons]
    split
    · simp only [List.length_cons]
      omega
    · exact Nat.le_refl _

/-- Replaces references `${NAME}` and `${NAME:-default}` in `cs` by values from `env`. -/
def expand (env : List (String × Option String)) : List Char → List Char
  | '$' :: '{' :: rest =>
    let body := rest.takeWhile (· != '}')
    match h : rest.dropWhile (· != '}') with
    | _ :: after =>
      have : after.length < rest.length + 2 := by
        have := length_dropWhile_le (· != '}') rest
        rw [h] at this
        simp at this
        omega
      let name := body.takeWhile (· != ':')
      let tail := body.dropWhile (· != ':')
      let valid := match tail with
        | [] => some ""
        | ':' :: '-' :: dflt => some (String.ofList dflt)
        | _ => none
      match valid with
      | some dflt =>
        let value := match env.lookup (String.ofList name) with
          | some (some v) => v
          | some none => ""
          | none => dflt
        value.toList ++ expand env after
      | none => '$' :: expand env ('{' :: rest)
    | [] => '$' :: expand env ('{' :: rest)
  | c :: rest => c :: expand env rest
  | [] => []
termination_by cs => cs.length
decreasing_by
  all_goals
    simp only [List.length_cons]
    omega

/-- The variables an environment file sets, in order, a later setting of a key replacing an
earlier one in place, with references expanded against the environment `outer` and earlier
keys; and the lines of statements that fail to parse. The text's line breaks are `\n`; a byte
order mark that starts it is dropped. -/
def parse (text : String) (outer : List (String × String)) :
    List (String × Option String) × List Nat :=
  let chars := match text.toList with
    | '\uFEFF' :: rest => rest
    | cs => cs
  let (stmts, broken) := statements (chars.length + 1) ⟨chars, 1⟩
  let step (acc : List (String × Option String)) (s : Statement) : List (String × Option String) :=
    match s with
    | .binding k v =>
      let env := (outer.map (fun (p : String × String) => (p.1, some p.2)) ++ acc).reverse
      let value := v.map fun text => String.ofList (expand env text.toList)
      if acc.any (·.1 == k) then acc.map fun (a, b) => if a == k then (a, value) else (a, b)
      else acc ++ [(k, value)]
    | .blank => acc
  (stmts.foldl step [], broken)

end SchemaNotation.Dotenv
