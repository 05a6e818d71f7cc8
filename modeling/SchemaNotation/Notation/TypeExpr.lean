import SchemaNotation.Schema.DataType
import SchemaNotation.Schema.Error
import SchemaNotation.Text.Integer
import SchemaNotation.Text.Search
import SchemaNotation.Notation.Nesting
import SchemaNotation.Notation.Identifier

/-! Reading multiplicities and type expressions.

A multiplicity is `min..max` with whole-number bounds, or `min..*`. A type expression is read by
its surface: `Array<T>` first, then `JSON` alone or `JSON{name: T, ...}`, then a parametric type
`Name(p, q)` if it holds a parenthesis, then a collection `Entity[min..max]` if it holds a square
bracket, and otherwise a bare name, which may hold no bracket at all. -/

namespace SchemaNotation.Notation

open Text

/-- Reads a multiplicity `min..max` or `min..*`. -/
def readMultiplicity (text : String) (line : Option Nat) : Parse Multiplicity :=
  match breakOn? (trim text) ".." with
  | none => throw ⟨.multiplicityFormat text, line⟩
  | some (lower, upper) =>
    match readInt? (trim lower) with
    | none => throw ⟨.multiplicityMinimum (trim lower), line⟩
    | some least =>
      if trim upper == "*" then pure ⟨least, none⟩
      else
        match readInt? (trim upper) with
        | some most => pure ⟨least, some most⟩
        | none => throw ⟨.multiplicityMaximum (trim upper), line⟩

/-- The body of a JSON object type `JSON {body}`, if the text has that form. -/
def objectBody? (expr : String) : Option String :=
  match dropBlanks (expr.toList.drop 4) with
  | '{' :: rest => if rest.getLast? == some '}' then some (String.ofList rest.dropLast) else none
  | _ => none

/-- The name and the parameter text of a parametric type `Name(params)`, if the text has that
form. The name may hold dots. -/
def parametricParts? (expr : String) : Option (String × String) :=
  match expr.toList with
  | c :: rest =>
    if isIdentStart c then
      let name := c :: rest.takeWhile (fun d => isIdentChar d || d == '.')
      match dropBlanks (rest.dropWhile fun d => isIdentChar d || d == '.') with
      | '(' :: body =>
        if body.getLast? == some ')' then some (String.ofList name, String.ofList body.dropLast)
        else none
      | _ => none
    else none
  | [] => none

/-- The entity and the multiplicity text of a collection `Entity[bounds]`, if the text has that
form on one line. -/
def collectionParts? (expr : String) : Option (String × String) :=
  match leadingIdent? expr.toList with
  | some (name, '[' :: body) =>
    if body.getLast? == some ']' && !body.dropLast.contains '\n' then
      some (String.ofList name, String.ofList body.dropLast)
    else none
  | _ => none

/-- Whether a text holds any bracket. -/
def hasBracket (s : String) : Bool := s.toList.any fun c => isOpener c || isCloser c

/-- Reads the properties `name: type, ...` of a JSON object type, each type by `readOne`. -/
def readProperties (readOne : String → Parse DataType) (body : String) (line : Option Nat) :
    Parse (List (String × DataType)) :=
  if isBlankText body then pure []
  else
    (splitTopLevel body ",").mapM fun item =>
      match breakOn? item ":" with
      | some (name, typeText) =>
        if isBlankText name then throw ⟨.invalidProperty (trim item), line⟩
        else do
          let type ← readOne typeText
          pure (trim name, type)
      | none => throw ⟨.invalidProperty (trim item), line⟩

/-- Reads a type expression, with `fuel` bounding the depth of nesting. -/
def readTypeWith : Nat → String → Option Nat → Parse DataType
  | 0, _, line => throw ⟨.emptyType, line⟩
  | fuel + 1, text, line =>
    let expr := trim text
    if expr.isEmpty then throw ⟨.emptyType, line⟩
    else if expr.startsWith "Array<" then
      if !expr.endsWith ">" || !balanced expr then throw ⟨.unclosedArray expr, line⟩
      else .array <$> readTypeWith fuel (String.ofList ((expr.toList.drop 6).dropLast)) line
    else if expr == "JSON" then pure (.json [])
    else if expr.startsWith "JSON" && (trimStart (dropChars expr 4)).startsWith "\x7b" then
      match objectBody? expr with
      | some body =>
        if balanced expr then .json <$> readProperties (readTypeWith fuel · line) body line
        else throw ⟨.unclosedObject expr, line⟩
      | none => throw ⟨.unclosedObject expr, line⟩
    else if expr.contains '(' then
      match parametricParts? expr with
      | some (name, body) =>
        if balanced expr then
          let body := trim body
          pure (.parametric name
            (if body.isEmpty then [] else (splitTopLevel body ",").map trim))
        else throw ⟨.malformedParametric expr, line⟩
      | none => throw ⟨.malformedParametric expr, line⟩
    else if expr.contains '[' then
      match collectionParts? expr with
      | some (entity, bounds) => .collection entity <$> readMultiplicity bounds line
      | none => throw ⟨.malformedCollection expr, line⟩
    else if hasBracket expr then throw ⟨.malformedType expr, line⟩
    else pure (.simple expr)

/-- Reads a type expression. -/
def readType (text : String) (line : Option Nat) : Parse DataType :=
  readTypeWith (text.length + 1) text line

end SchemaNotation.Notation
