import SchemaNotation.Schema.Field
import SchemaNotation.Schema.Error
import SchemaNotation.Text.Alnum
import SchemaNotation.Text.Search
import SchemaNotation.Notation.Nesting

/-! Constraint groups of a field line.

The type text of a field holds bracketed groups such as `[PK]` or `[FK:User.id,INDEX]`.
`extractGroups` takes them out and leaves the type, except a bracket attached to a name whose
content holds `..`, which is the multiplicity of a collection type (`Tag[0..*]`). A group is a
comma list of items `NAME` or `NAME:value`. After a constraint whose value is itself a list
(`ENUM`, `CIX` and the like), an item that cannot open a constraint of its own goes on with the
previous value, so `ENUM:a,b,c` is one constraint. -/

namespace SchemaNotation.Notation

open Text

/-- Names of constraints whose values are checked for their form. -/
def valueConstraints : List String := ["PK", "FK", "UK", "UNIQUE", "INDEX", "IX", "DEFAULT", "ENUM"]

/-- Names of constraints that mark system-managed or storage properties of a field. -/
def systemConstraints : List String :=
  ["SYSTEM", "AUTO", "AUTO_INCREMENT", "ENCRYPTED", "COMPRESSED", "SPATIAL", "BASE64", "CURRENCY",
    "PII", "MASK", "PARTITION", "SHARD", "CIX", "PIX", "CACHED", "TTL", "AUDIT", "DEPRECATED",
    "VALIDATE", "CHECK", "COLLATION", "PRECISION", "GENERATED", "COMPUTED"]

/-- Names of all known constraints. -/
def knownConstraints : List String := valueConstraints ++ systemConstraints

/-- Names of constraints whose value is a comma list. -/
def listConstraints : List String := ["ENUM", "CIX", "PIX", "CHECK", "VALIDATE", "PARTITION", "SHARD"]

/-- Whether a text is written like a constraint name: an ASCII capital, then capitals, digits
and underscores. -/
def isConstraintName (s : String) : Bool :=
  match s.toList with
  | c :: rest => c.isUpper && rest.all fun d => d.isUpper || d.isDigit || d == '_'
  | [] => false

/-- Whether an item with the given name, with a value or not, opens a constraint of its own
rather than going on with the value of `previous`. -/
def opensConstraint (name : String) (hasValue : Bool) (previous : Option Constraint) : Bool :=
  match previous with
  | none => true
  | some p =>
    p.value.isNone || !listConstraints.contains p.key ||
      (isConstraintName name && (hasValue || knownConstraints.contains name))

/-- Adds one item of a group to the constraints read so far, the last first. -/
def addItem (group : String) (line : Option Nat) (done : List Constraint) (raw : String) :
    Parse (List Constraint) := do
  let item := trim raw
  if item.isEmpty then throw ⟨.emptyConstraint group, line⟩
  let (name, hasValue, value) :=
    match breakOn? item ":" with
    | some (name, value) => (trim name, true, value)
    | none => (trim item, false, "")
  match done with
  | p :: rest =>
    if !opensConstraint name hasValue (some p) then
      return { p with value := some (p.value.getD "" ++ "," ++ item) } :: rest
  | [] => pure ()
  if name.isEmpty then throw ⟨.unnamedConstraint group, line⟩
  let value := trim value
  return ⟨name, if value.isEmpty then none else some value⟩ :: done

/-- Reads the constraints of one group, the text between its brackets. -/
def readConstraintList (group : String) (line : Option Nat) : Parse (List Constraint) := do
  if isBlankText group then throw ⟨.emptyConstraintList, line⟩
  let done ← (splitTopLevel group ",").foldlM (addItem group line) []
  return done.reverse

/-- The content of a square-bracket group up to its closing bracket, and the characters after
it. `depth` counts open square brackets, `quote` is the mark of an open quotation, and
`content` holds the characters read in reverse. -/
def groupFrom : List Char → Nat → Option Char → List Char → Option (List Char × List Char)
  | [], _, _, _ => none
  | c :: rest, depth, some q, content =>
    groupFrom rest depth (if c == q then none else some q) (c :: content)
  | c :: rest, depth, none, content =>
    if isQuote c then groupFrom rest depth (some c) (c :: content)
    else if c == '[' then groupFrom rest (depth + 1) none (c :: content)
    else if c == ']' then
      if depth == 1 then some (content.reverse, rest)
      else groupFrom rest (depth - 1) none (c :: content)
    else groupFrom rest depth none (c :: content)

/-- Takes the constraint groups out of `cs`. `previous` is the character before, `depth` counts
open brackets, `kept` holds the type text in reverse and `groups` the groups in reverse. -/
def groupsFrom (line : Option Nat) :
    (cs : List Char) → Option Char → Nat → List Char → List String →
      Parse (List Char × List String)
  | [], _, depth, kept, groups =>
    if depth != 0 then throw ⟨.unbalancedType, line⟩ else pure (kept, groups)
  | c :: rest, previous, depth, kept, groups =>
    if c == '[' && depth == 0 then
      match h : groupFrom rest 1 none [] with
      | none => throw ⟨.unclosedGroup, line⟩
      | some (content, after) =>
        have : after.length < rest.length + 1 := groupFrom_shorter h
        let attached := match previous with
          | some p => isAlnum p || p == '_'
          | none => false
        if attached && Text.contains (String.ofList content) ".." then
          groupsFrom line after (some ']') depth
            ((c :: content ++ [']']).reverse ++ kept) groups
        else
          groupsFrom line after (some ']') depth (' ' :: kept) (String.ofList content :: groups)
    else if isOpener c then groupsFrom line rest (some c) (depth + 1) (c :: kept) groups
    else if isCloser c then
      if depth == 0 then throw ⟨.unexpectedCloser c, line⟩
      else groupsFrom line rest (some c) (depth - 1) (c :: kept) groups
    else groupsFrom line rest (some c) depth (c :: kept) groups
termination_by cs => cs.length
where
  groupFrom_shorter {rest content after : List Char} {depth : Nat} {quote : Option Char}
      {acc : List Char} (h : groupFrom rest depth quote acc = some (content, after)) :
      after.length < rest.length + 1 := by
    induction rest generalizing depth quote acc with
    | nil => simp [groupFrom] at h
    | cons c cs ih =>
      cases quote with
      | some q =>
        simp only [groupFrom] at h
        have := ih h
        simp only [List.length_cons]; omega
      | none =>
        simp only [groupFrom] at h
        split at h
        · have := ih h; simp only [List.length_cons]; omega
        · split at h
          · have := ih h; simp only [List.length_cons]; omega
          · split at h
            · split at h
              · cases h; simp only [List.length_cons]; omega
              · have := ih h; simp only [List.length_cons]; omega
            · have := ih h; simp only [List.length_cons]; omega

/-- Takes the constraint groups out of a field's type text: the type text left, trimmed, and the
contents of the groups in order. -/
def extractGroups (text : String) (line : Option Nat) : Parse (String × List String) := do
  let (kept, groups) ← groupsFrom line text.toList none 0 [] []
  return (trim (String.ofList kept.reverse), groups.reverse)

end SchemaNotation.Notation
