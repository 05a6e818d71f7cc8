import SchemaNotation.Text.Blank
import SchemaNotation.Text.Case
import SchemaNotation.Terminal.CellWidth
import SchemaNotation.Terminal.Emoji

/-! Text for a terminal without colour: console markup, control characters and escape codes.

Console markup styles text with tags: `[name]` opens a style and `[/name]` or `[/]` closes one.
A tag is a `[`, a lowercase letter, `#`, `/` or `@`, then anything but `[` up to the first `]`;
an odd number of backslashes before a tag makes it text, and every pair of them stands for one
backslash. Without colour only the text remains, but a closing tag that matches no open style is
an error. Emoji codes such as `:smile:` in the text between tags become their emoji. Printed text loses the control characters bell, backspace, vertical tab, form feed and
carriage return, and its tabs become spaces up to the next multiple of eight columns. Text echoed
to a stream that is not a terminal loses its escape codes `ESC [ … letter`. -/

namespace SchemaNotation.Markup

/-- A piece of markup: text, or a tag with its text and its position. -/
inductive Piece where
  | text (chars : List Char)
  | tag (body : String) (position : Nat)
deriving BEq, Repr, Inhabited

/-- Why markup cannot be rendered. -/
structure MarkupError where
  message : String
deriving BEq, Repr, Inhabited

/-- Whether a character may follow the `[` of a tag. -/
def startsTag (c : Char) : Bool := ('a' ≤ c && c ≤ 'z') || c == '#' || c == '/' || c == '@'

/-- The body of a tag after its `[`: the characters up to the first `]`, and what follows it;
none when a `[` or the end comes first. -/
def tagBody : List Char → Option (List Char × List Char)
  | [] => none
  | ']' :: rest => some ([], rest)
  | '[' :: _ => none
  | c :: rest => (tagBody rest).map fun (b, r) => (c :: b, r)

theorem tagBody_shorter : ∀ {cs body rest : List Char}, tagBody cs = some (body, rest) →
    rest.length < cs.length
  | [], _, _, h => by simp [tagBody] at h
  | c :: cs, body, rest, h => by
    by_cases h1 : c = ']'
    · subst h1
      simp only [tagBody, Option.some.injEq, Prod.mk.injEq] at h
      obtain ⟨-, rfl⟩ := h
      simp
    · by_cases h2 : c = '['
      · subst h2
        simp [tagBody] at h
      · have e : tagBody (c :: cs) = (tagBody cs).map fun (b, r) => (c :: b, r) := by
          simp [tagBody]
        rw [e] at h
        cases hb : tagBody cs with
        | none => simp [hb] at h
        | some p =>
          obtain ⟨b, r⟩ := p
          simp only [hb, Option.map_some, Option.some.injEq, Prod.mk.injEq] at h
          obtain ⟨-, rfl⟩ := h
          have := tagBody_shorter hb
          simp only [List.length_cons]
          omega

/-- Replaces each `\[` of a text piece by `[`. -/
def unescapeBrackets : List Char → List Char
  | '\\' :: '[' :: rest => '[' :: unescapeBrackets rest
  | c :: rest => c :: unescapeBrackets rest
  | [] => []

/-- The pieces of markup from position `pos`, with the text since the last tag, reversed, in
`pending`. -/
def piecesFrom (pos : Nat) (pending : List Char) (cs : List Char) : List Piece :=
  let flush := if pending.isEmpty then [] else [Piece.text (unescapeBrackets pending.reverse)]
  match cs with
  | [] => flush
  | c :: more =>
    let slashes := (c :: more).takeWhile (· == '\\')
    match h : (c :: more).drop slashes.length with
    | '[' :: d :: after =>
      if startsTag d then
        match hb : tagBody (d :: after) with
        | some (body, rest) =>
          have : rest.length < (c :: more).length := by
            have h1 := tagBody_shorter hb
            have h2 : ((c :: more).drop slashes.length).length ≤ (c :: more).length := by simp
            rw [h] at h2
            simp only [List.length_cons] at h1 h2 ⊢
            omega
          let n := slashes.length
          let backslashes := if n / 2 = 0 then [] else [Piece.text (List.replicate (n / 2) '\\')]
          let next := pos + (c :: more).length - rest.length
          if n % 2 = 1 then
            flush ++ backslashes ++ [Piece.text ('[' :: body ++ [']'])] ++ piecesFrom next [] rest
          else
            flush ++ backslashes ++ [Piece.tag (String.ofList body) (pos + n)] ++
              piecesFrom next [] rest
        | none => piecesFrom (pos + 1) (c :: pending) more
      else piecesFrom (pos + 1) (c :: pending) more
    | _ => piecesFrom (pos + 1) (c :: pending) more
termination_by cs.length
decreasing_by
  all_goals simp only [List.length_cons] at *
  all_goals omega

/-- The pieces of a markup text. -/
def pieces (s : String) : List Piece := piecesFrom 0 [] s.toList

/-- The name under which styles of a tag compare: trimmed and in lower case. -/
def styleKey (name : String) : String := Text.lower (Text.trim name)

/-- Removes the topmost entry equal to `key` from a stack, if there is one. -/
def popKey (key : String) : List String → Option (List String)
  | [] => none
  | k :: rest => if k == key then some rest else (popKey key rest).map (k :: ·)

/-- The text of markup pieces, checking that closing tags match open styles; `stack` holds the
open styles, the most recent first. -/
def textOf (stack : List String) : List Piece → Except MarkupError (List Char)
  | [] => .ok []
  | .text cs :: rest => (textOf stack rest).map (Emoji.replaceIn cs ++ ·)
  | .tag body position :: rest =>
    let name := String.ofList (body.toList.takeWhile (· != '='))
    match name.toList with
    | '/' :: closed =>
      let key := styleKey (String.ofList closed)
      if key.isEmpty then
        match stack with
        | _ :: below => textOf below rest
        | [] => .error ⟨"closing tag '[/]' at position " ++ toString position ++ " has nothing to close"⟩
      else
        match popKey key stack with
        | some below => textOf below rest
        | none => .error ⟨"closing tag '[" ++ body ++ "]' at position " ++ toString position ++
            " doesn't match any open tag"⟩
    | _ => textOf (styleKey name :: stack) rest

/-- Whether a character is a control character that printed text drops. -/
def isDropped (c : Char) : Bool :=
  c == '\x07' || c == '\x08' || c == '\x0b' || c == '\x0c' || c == '\r'

/-- Expands the tabs of a line cut at its tabs into `parts`, the first part starting at cell
`column`. Each tab becomes a space, measured with the part before it, and then as many spaces
as reach the next multiple of eight cells. -/
def expandParts (column : Nat) : List (List Char) → List Char
  | [] => []
  | [part] => part
  | part :: rest =>
    let reached := column + Cells.width (part ++ [' '])
    let pad := (8 - reached % 8) % 8
    part ++ (' ' :: List.replicate pad ' ') ++ expandParts (reached + pad) rest

/-- Replaces each tab by spaces up to the next multiple of eight cells, counting cells from the
start of each line. -/
def expandTabs (cs : List Char) : List Char :=
  List.intercalate ['\n'] ((cs.splitOn '\n').map fun line => expandParts 0 (line.splitOn '\t'))

/-- Printed text: control characters dropped and tabs expanded. -/
def printable (cs : List Char) : String := String.ofList (expandTabs (cs.filter (!isDropped ·)))

/-- The printed form of a line of markup, or the markup error it holds. -/
def render (s : String) : Except MarkupError String :=
  (textOf [] (pieces s)).map printable

/-- The printed form of a line taken as plain text, emoji codes replaced. -/
def plain (s : String) : String := printable (Emoji.replaceIn s.toList)

/-- Drops escape codes `ESC [`, digits, `;` or `?`, then a letter. -/
def stripEscapes : List Char → List Char
  | '\x1b' :: '[' :: rest =>
    let params := rest.takeWhile fun c => c.isDigit || c == ';' || c == '?'
    match _h : rest.drop params.length with
    | c :: after =>
      if c.isAlpha then stripEscapes after else '\x1b' :: stripEscapes ('[' :: rest)
    | [] => '\x1b' :: stripEscapes ('[' :: rest)
  | c :: rest => c :: stripEscapes rest
  | [] => []
termination_by cs => cs.length
decreasing_by
  all_goals simp only [List.length_cons]
  · -- `after` is what follows the parameters, so it is shorter than `rest`
    have e := congrArg List.length _h
    simp only [List.length_drop, List.length_cons] at e
    omega
  all_goals omega

/-- Text as echoed to a stream that is not a terminal: without escape codes. -/
def echoed (s : String) : String := String.ofList (stripEscapes s.toList)

end SchemaNotation.Markup
