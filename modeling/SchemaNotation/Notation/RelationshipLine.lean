import SchemaNotation.Schema.Relationship
import SchemaNotation.Schema.Error
import SchemaNotation.Text.Alnum
import SchemaNotation.Text.Search
import SchemaNotation.Notation.Nesting
import SchemaNotation.Notation.Identifier

/-! Reading relationship lines and field links.

A relationship line is `From -> To [cardinality] (nature) via Junction # comment`. The
cardinality is the first bracketed group after the arrow; the target entity is what stands
between the arrow and it. After the group, the first parenthesised group gives the nature, and
the first word `via` followed by an identifier gives the junction entity. A link is
`## From.field -> To.field # comment`. -/

namespace SchemaNotation.Notation

open Text

/-- The text before the first `opener` that a `closer` follows, the text between them up to the
first such `closer`, and the text after it. -/
def enclosed? (s : String) (opener closer : Char) : Option (String × String × String) :=
  let cs := s.toList
  let before := cs.takeWhile (· != opener)
  match cs.dropWhile (· != opener) with
  | _ :: rest =>
    let inner := rest.takeWhile (· != closer)
    match rest.dropWhile (· != closer) with
    | _ :: after => some (String.ofList before, String.ofList inner, String.ofList after)
    | [] => none
  | [] => none

/-- The identifier after `via` and blanks at the start of `cs`, if there is one. -/
def viaTarget? : List Char → Option String
  | 'v' :: 'i' :: 'a' :: rest =>
    match rest with
    | c :: _ =>
      if isBlank c then (leadingIdent? (dropBlanks rest)).map (String.ofList ·.1) else none
    | [] => none
  | _ => none

/-- The junction entity of the first word `via` in `cs` that an identifier follows; `previous`
is the character before `cs`. -/
def viaFrom : Option Char → List Char → Option String
  | _, [] => none
  | previous, c :: rest =>
    let atWordStart := match previous with
      | some p => !isWordChar p
      | none => true
    match (if atWordStart then viaTarget? (c :: rest) else none) with
    | some name => some name
    | none => viaFrom (some c) rest

/-- Reads a relationship line. -/
def readRelationship (text : String) (line : Option Nat) : Parse Relationship := do
  let (content, comment) := splitComment (trim text)
  let some (left, right) := breakOn? content "->"
    | throw ⟨.missingArrow content, line⟩
  let source := trim left
  let some (before, token, tail) := enclosed? right '[' ']'
    | throw ⟨.missingCardinality, line⟩
  let some cardinality := Cardinality.ofToken? (trim token)
    | throw ⟨.unknownCardinality (trim token), line⟩
  let target := trim before
  if source.isEmpty || target.isEmpty then throw ⟨.missingEntityName content, line⟩
  let nature ← match enclosed? tail '(' ')' with
    | some (_, word, _) =>
      match Nature.ofToken? (trim word) with
      | some n => pure (some n)
      | none => throw ⟨.unknownNature (trim word), line⟩
    | none => pure none
  return { source, target, cardinality, nature, via := viaFrom none tail.toList, comment }

/-- Reads a link line `## From.field -> To.field`. -/
def readLink (text : String) (line : Option Nat) : Parse Link := do
  let body := trim text
  let body := if body.startsWith "##" then dropChars body 2 else body
  let (content, comment) := splitComment (trim body)
  let (left, right, arrow) := match breakOn? content "->" with
    | some (l, r) => (l, r, true)
    | none => (content, "", false)
  match arrow, qualifiedName? (trim left), qualifiedName? (trim right) with
  | true, some (sourceEntity, sourceField), some (targetEntity, targetField) =>
    return { sourceEntity, sourceField, targetEntity, targetField, comment }
  | _, _, _ => throw ⟨.malformedLink content, line⟩

end SchemaNotation.Notation
