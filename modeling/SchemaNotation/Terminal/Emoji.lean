import SchemaNotation.Terminal.EmojiTable
import SchemaNotation.Text.Blank
import SchemaNotation.Text.Case

/-! Replacing emoji codes in console text.

A code is a colon, a name of characters other than blanks, an optional `-emoji` or `-text`,
and a colon; of the codes that start at a colon the one with the shortest name counts. Codes
are found from left to right without overlapping. A code whose name, in lower case, is in the
table becomes its emoji, followed by the presentation selector that the variant asks for; any
other code stays as it is. -/

namespace SchemaNotation.Emoji

/-- Halving search for the value of `name` among the entries `lo` to `hi - 1` of `entries`,
which are sorted by name. -/
def findIn (entries : Array (String × String)) (name : String) (lo hi : Nat) : Option String :=
  if _h : lo < hi then
    match entries[(lo + hi) / 2]? with
    | none => none
    | some (key, value) =>
      if name < key then findIn entries name lo ((lo + hi) / 2)
      else if key < name then findIn entries name ((lo + hi) / 2 + 1) hi
      else some value
  else none
termination_by hi - lo

/-- The emoji a name stands for. -/
def find? (name : String) : Option String := findIn table name 0 table.size

/-- The presentation a code asks for. -/
inductive Variant where
  | emoji
  | text
deriving BEq, Repr, Inhabited, DecidableEq

/-- The suffix of a code that asks for a presentation. -/
def Variant.suffix : Variant → String
  | .emoji => "-emoji"
  | .text => "-text"

/-- The selector character that follows an emoji in a presentation. -/
def Variant.selector : Variant → Char
  | .emoji => '️'
  | .text => '︎'

/-- The variant suffix and closing colon at the start of `cs`, and what follows them. -/
def variantEnd (cs : List Char) : Option (Variant × List Char) :=
  match cs with
  | '-' :: 'e' :: 'm' :: 'o' :: 'j' :: 'i' :: ':' :: rest => some (.emoji, rest)
  | '-' :: 't' :: 'e' :: 'x' :: 't' :: ':' :: rest => some (.text, rest)
  | _ => none

/-- Reads a code after its opening colon, with the name read so far in reverse: the name, the
variant, and the characters after the closing colon. The name is the shortest that a closing
colon, with or without a variant suffix before it, ends. -/
def codeFrom (name : List Char) : List Char → Option (List Char × Option Variant × List Char)
  | [] => none
  | c :: rest =>
    match variantEnd (c :: rest) with
    | some (v, after) => some (name.reverse, some v, after)
    | none =>
      if c == ':' then some (name.reverse, none, rest)
      else if Text.isBlank c then none
      else codeFrom (c :: name) rest

theorem codeFrom_shorter : ∀ {name cs n : List Char} {v : Option Variant} {after : List Char},
    codeFrom name cs = some (n, v, after) → after.length < cs.length
  | _, [], _, _, _, h => by simp [codeFrom] at h
  | name, c :: rest, n, v, after, h => by
    unfold codeFrom at h
    cases hv : variantEnd (c :: rest) with
    | some p =>
      obtain ⟨w, more⟩ := p
      rw [hv] at h
      simp only [Option.some.injEq, Prod.mk.injEq] at h
      obtain ⟨-, -, rfl⟩ := h
      unfold variantEnd at hv
      split at hv <;> simp only [Option.some.injEq, Prod.mk.injEq, reduceCtorEq] at hv
      all_goals
        obtain ⟨-, rfl⟩ := hv
        simp_all only [List.length_cons]
        omega
    | none =>
      rw [hv] at h
      simp only at h
      split at h
      · simp only [Option.some.injEq, Prod.mk.injEq] at h
        obtain ⟨-, -, rfl⟩ := h
        simp only [List.length_cons]
        omega
      · split at h
        · simp at h
        · have := codeFrom_shorter h
          simp only [List.length_cons]
          omega

/-- Replaces the emoji codes of `cs`. -/
def replaceIn : List Char → List Char
  | [] => []
  | c :: rest =>
    if c == ':' then
      match _h : codeFrom [] rest with
      | some (name, variant, after) =>
        let code := ':' :: name ++ ((variant.map Variant.suffix).getD "").toList ++ [':']
        let shown := match find? (Text.lower (String.ofList name)) with
          | some e => e.toList ++ (variant.map fun v => [v.selector]).getD []
          | none => code
        shown ++ replaceIn after
      | none => c :: replaceIn rest
    else c :: replaceIn rest
termination_by cs => cs.length
decreasing_by
  all_goals simp only [List.length_cons]
  · -- the code read after the colon is not empty
    have := codeFrom_shorter _h
    omega
  all_goals omega

/-- A text with its emoji codes replaced. -/
def replace (s : String) : String := String.ofList (replaceIn s.toList)

end SchemaNotation.Emoji
