/-! Why a document fails to parse.

Reading stops at the first fault. Each fault is a constructor of `Fault`, which carries the text
its message quotes; `Fault.kind` sorts faults by the part of the notation they concern, and
`Fault.message` words them. A `ParseError` is a fault with the number of the line it was found
on, when that is known; its text ends with ` at line N`. -/

namespace SchemaNotation

/-- The part of the notation a fault concerns. -/
inductive FaultKind where
  | header
  | unexpectedToken
  | relationship
  | entity
  | field
  | dataType
  | constraint
  | cardinality
  | endOfInput
deriving BEq, Repr, Inhabited, DecidableEq

/-- A fault found while reading a document or one of its lines. -/
inductive Fault where
  /-- A header line does not end with the file extension. -/
  | headerExtension
  /-- The schema block marker stands where another line is. -/
  | expectedSchemaBlock
  /-- A line follows the schema that belongs to none of its parts. -/
  | unexpectedContent (line : String)
  /-- A relationship line has no arrow. -/
  | missingArrow (content : String)
  /-- A relationship line has no bracketed cardinality. -/
  | missingCardinality
  /-- A relationship line's cardinality token is unknown. -/
  | unknownCardinality (token : String)
  /-- A relationship line lacks one of its two entity names. -/
  | missingEntityName (content : String)
  /-- A relationship line's nature token is unknown. -/
  | unknownNature (token : String)
  /-- A link line is not of the form `Entity.field -> Entity.field`. -/
  | malformedLink (content : String)
  /-- An entity line has no name. -/
  | unnamedEntity
  /-- The line under an entity name is no separator row. -/
  | badSeparator (entity : String)
  /-- A field line opens with no sigil. -/
  | missingSigil
  /-- A field line has no colon between names and type. -/
  | missingColon (line : String)
  /-- One of a field's names is empty. -/
  | emptyFieldName (names : String)
  /-- A field line has names but no type. -/
  | missingFieldType (names : String)
  /-- A type expression is empty. -/
  | emptyType
  /-- A constraint group is not closed. -/
  | unclosedGroup
  /-- A closing bracket has no opening one. -/
  | unexpectedCloser (closer : Char)
  /-- The brackets of a type do not balance. -/
  | unbalancedType
  /-- An array type is not closed. -/
  | unclosedArray (expr : String)
  /-- A JSON object type is not closed. -/
  | unclosedObject (expr : String)
  /-- A parametric type is malformed. -/
  | malformedParametric (expr : String)
  /-- A collection type is malformed. -/
  | malformedCollection (expr : String)
  /-- A type holds stray brackets. -/
  | malformedType (expr : String)
  /-- A property of a JSON object type has no name or no colon. -/
  | invalidProperty (item : String)
  /-- A constraint group is empty. -/
  | emptyConstraintList
  /-- An item of a constraint group is empty. -/
  | emptyConstraint (group : String)
  /-- An item of a constraint group has no name. -/
  | unnamedConstraint (group : String)
  /-- A multiplicity has no `..`. -/
  | multiplicityFormat (text : String)
  /-- The lower bound of a multiplicity is no number. -/
  | multiplicityMinimum (text : String)
  /-- The upper bound of a multiplicity is neither a number nor `*`. -/
  | multiplicityMaximum (text : String)
  /-- The front matter is not closed. -/
  | unclosedFrontMatter
  /-- The text ends before the schema block. -/
  | missingSchemaBlock
  /-- The text ends right after an entity name. -/
  | missingSeparator (entity : String)
deriving BEq, Repr, Inhabited, DecidableEq

namespace Fault

/-- The part of the notation a fault concerns. -/
def kind : Fault → FaultKind
  | .headerExtension => .header
  | .expectedSchemaBlock | .unexpectedContent _ => .unexpectedToken
  | .missingArrow _ | .missingCardinality | .unknownCardinality _ | .missingEntityName _
  | .unknownNature _ | .malformedLink _ => .relationship
  | .unnamedEntity | .badSeparator _ => .entity
  | .missingSigil | .missingColon _ | .emptyFieldName _ | .missingFieldType _ | .emptyType => .field
  | .unclosedGroup | .unexpectedCloser _ | .unbalancedType | .unclosedArray _ | .unclosedObject _
  | .malformedParametric _ | .malformedCollection _ | .malformedType _
  | .invalidProperty _ => .dataType
  | .emptyConstraintList | .emptyConstraint _ | .unnamedConstraint _ => .constraint
  | .multiplicityFormat _ | .multiplicityMinimum _ | .multiplicityMaximum _ => .cardinality
  | .unclosedFrontMatter | .missingSchemaBlock | .missingSeparator _ => .endOfInput

/-- The wording of a fault. -/
def message : Fault → String
  | .headerExtension => "Header must end with .dbsoup"
  | .expectedSchemaBlock => "Expected '=== DATABASE SCHEMA ==='"
  | .unexpectedContent line => "Unexpected content '" ++ line ++ "'"
  | .missingArrow content => "Expected '->' in relationship '" ++ content ++ "'"
  | .missingCardinality => "Missing cardinality"
  | .unknownCardinality token => "Unknown cardinality: " ++ token
  | .missingEntityName content => "Missing entity name in '" ++ content ++ "'"
  | .unknownNature token => "Unknown relationship nature: " ++ token
  | .malformedLink content =>
    "Relationship detail must look like 'Entity.field -> Entity.field': '" ++ content ++ "'"
  | .unnamedEntity => "Missing entity name"
  | .badSeparator entity => "Invalid entity separator after '" ++ entity ++ "'"
  | .missingSigil => "Missing field prefix"
  | .missingColon line => "Missing ':' in field definition '" ++ line ++ "'"
  | .emptyFieldName names => "Empty field name in '" ++ names ++ "'"
  | .missingFieldType names => "Missing field type for '" ++ names ++ "'"
  | .emptyType => "Missing field type"
  | .unclosedGroup => "Unclosed '[' in field definition"
  | .unexpectedCloser c => "Unexpected '" ++ c.toString ++ "' in field definition"
  | .unbalancedType => "Unbalanced brackets in data type"
  | .unclosedArray expr => "Unclosed 'Array<' in '" ++ expr ++ "'"
  | .unclosedObject expr => "Unclosed '\x7b' in '" ++ expr ++ "'"
  | .malformedParametric expr => "Malformed parametric type '" ++ expr ++ "'"
  | .malformedCollection expr => "Malformed relationship array '" ++ expr ++ "'"
  | .malformedType expr => "Malformed data type '" ++ expr ++ "'"
  | .invalidProperty item => "Invalid JSON property '" ++ item ++ "'"
  | .emptyConstraintList => "Empty constraint list"
  | .emptyConstraint group => "Empty constraint in '[" ++ group ++ "]'"
  | .unnamedConstraint group => "Constraint without a name in '[" ++ group ++ "]'"
  | .multiplicityFormat text => "Invalid cardinality format '" ++ text ++ "'"
  | .multiplicityMinimum text => "Invalid minimum cardinality '" ++ text ++ "'"
  | .multiplicityMaximum text => "Invalid maximum cardinality '" ++ text ++ "'"
  | .unclosedFrontMatter => "Unclosed front matter block"
  | .missingSchemaBlock => "Expected '=== DATABASE SCHEMA ==='"
  | .missingSeparator entity => "Expected separator row after entity '" ++ entity ++ "'"

end Fault

/-- A fault with the number of the line it was found on, when known. -/
structure ParseError where
  fault : Fault
  line : Option Nat
deriving BEq, Repr, Inhabited, DecidableEq

namespace ParseError

/-- The text of an error: the fault's message, then ` at line N` when the line is known. -/
def message (e : ParseError) : String :=
  match e.line with
  | some n => e.fault.message ++ " at line " ++ toString n
  | none => e.fault.message

end ParseError

/-- The outcome of reading a line or a document. -/
abbrev Parse (α : Type) := Except ParseError α

end SchemaNotation
