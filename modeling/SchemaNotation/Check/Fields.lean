import SchemaNotation.Check.Issue
import SchemaNotation.Notation.Constraint
import SchemaNotation.Notation.Identifier
import SchemaNotation.Text.Integer

/-! Checks of entities, fields, data types and constraints.

Structure: entity names are unique, field names are unique within an entity, no field is both
required and optional, a required field is not system-managed, and every entity has a primary
key. Data types: a bare name is a known type (or draws a warning), a parametric type has the
parameters its name needs, and referenced entities exist with sensible multiplicities.
Constraints: a constraint name appears once per field, `FK` names an `Entity.field` that
exists, `DEFAULT` and `ENUM` have values, and unknown names draw a warning. -/

namespace SchemaNotation

open Notation

/-- The bare type names that need no declaration. -/
def builtinTypes : List String :=
  ["String", "Int", "Float", "Double", "Boolean", "DateTime", "Date", "Time", "UUID", "Guid",
    "ObjectId", "Binary", "JSON", "Text", "LongText", "Decimal", "Money", "Timestamp", "TinyInt",
    "SmallInt", "BigInt", "Bit", "VarBinary", "Image", "XML", "Geometry", "Geography", "Point",
    "Polygon", "LineString", "Buffer", "BinData"]

namespace Scope

/-- The findings of a field's sigils. -/
def sigilFindings (e : Entity) (f : Field) : Findings :=
  let required := f.sigils.contains .required
  (if required && f.sigils.contains .optional then
    .error ⟨.invalidFieldPrefix,
      "field '" ++ f.displayName ++ "' in entity '" ++ e.name ++
        "' cannot be both required (*) and optional (-)",
      some e.name, some f.displayName, some (String.ofList (f.sigils.map Sigil.symbol))⟩
  else .none) ++
  (if required && f.hasConstraint "SYSTEM" then
    .warn ("System field '" ++ f.displayName ++ "' in entity '" ++ e.name ++
      "' should not be required")
  else .none)

/-- The structure findings of one entity; `earlier` holds the names of the entities before it. -/
def entityStructure (earlier : List String) (e : Entity) : Findings :=
  (if earlier.contains e.name then
    .error ⟨.duplicateEntityName, e.name, some e.name, none, none⟩
  else .none) ++
  Findings.withEarlier e.fields (fun before f =>
    Findings.withEarlier f.names (fun same n =>
      if (before.flatMap Field.names ++ same).contains n then
        .error ⟨.duplicateFieldName, "'" ++ n ++ "' in entity '" ++ e.name ++ "'",
          some e.name, some n, none⟩
      else .none) ++
    sigilFindings e f) ++
  (if e.keyFields.isEmpty then
    .error ⟨.missingPrimaryKey, "entity '" ++ e.name ++ "' has no field with a PK constraint",
      some e.name, none, none⟩
  else .none)

/-- The structure findings of all entities. -/
def structureFindings (s : Scope) : Findings :=
  Findings.withEarlier s.document.entities fun before e =>
    entityStructure (before.map Entity.name) e

/-- Whether a parameter is a whole number. -/
def isWholeNumber (p : String) : Bool := (Text.readInt? p).isSome

/-- The findings of a parametric type `name(params)` of a field; `place` names the field. -/
def parametricFindings (e : Entity) (f : Field) (name : String) (params : List String)
    (place : String) : Findings :=
  let problem : Option String :=
    if ["String", "VarChar", "Char"].contains name then
      (match params with
        | [p] => if isWholeNumber p then none else some ()
        | _ => some ()).map fun _ => name ++ " requires a single integer parameter"
    else if ["Decimal", "Numeric"].contains name then
      if params.length == 2 && params.all isWholeNumber then none
      else some (name ++ " requires two integer parameters (precision, scale)")
    else if name == "Enum" then
      if params.any (!·.isEmpty) then none else some "Enum requires at least one value"
    else none
  let known := ["String", "VarChar", "Char", "Decimal", "Numeric", "Enum"].contains name
  if !known then .warn ("Unknown parametric type '" ++ name ++ "' for " ++ place)
  else
    match problem with
    | some p =>
      .error ⟨.invalidDataType, p ++ " (" ++ place ++ ")", some e.name, some f.displayName,
        some (name ++ "(" ++ ",".intercalate params ++ ")")⟩
    | none => .none

/-- The findings of a collection's multiplicity. -/
def multiplicityFindings (e : Entity) (f : Field) (entity : String) (m : Multiplicity) : Findings :=
  let place := entity ++ "[" ++ m.render ++ "] on field '" ++ f.displayName ++ "' in entity '" ++
    e.name ++ "'"
  let issue (detail : String) : Findings :=
    .error ⟨.invalidCardinality, detail ++ place, some e.name, some f.displayName,
      some m.render⟩
  (if m.min < 0 then issue "minimum cannot be negative: " else .none) ++
  (match m.max with
    | some most => if most < m.min then issue "maximum cannot be less than minimum: " else .none
    | none => .none)

mutual
/-- The findings of a data type of a field. -/
def typeFindings (s : Scope) (e : Entity) (f : Field) (place : String) : DataType → Findings
  | .simple name =>
    if builtinTypes.contains name then .none
    else if s.hasEntity name then
      .warn ("Type '" ++ name ++ "' for " ++ place ++ " names standard entity '" ++ name ++
        "'; use a relationship array or an FK constraint")
    else .warn ("Unknown data type '" ++ name ++ "' for " ++ place)
  | .parametric name params => parametricFindings e f name params place
  | .array inner => typeFindings s e f place inner
  | .json props => propertyFindings s e f place [] props
  | .collection entity m =>
    (if s.hasEntity entity then .none
    else Scope.missingEntity entity place (some e.name) (some f.displayName)) ++
    multiplicityFindings e f entity m
  | .embedded entity =>
    if s.hasEntity entity then .none
    else Scope.missingEntity entity place (some e.name) (some f.displayName)

/-- The findings of the properties of an object type; `seen` holds the names before. -/
def propertyFindings (s : Scope) (e : Entity) (f : Field) (place : String) (seen : List String) :
    List (String × DataType) → Findings
  | [] => .none
  | (name, type) :: rest =>
    (if seen.contains name then .warn ("Duplicate JSON property '" ++ name ++ "' in " ++ place)
    else .none) ++
    typeFindings s e f place type ++ propertyFindings s e f place (seen ++ [name]) rest
end

/-- The data type findings of all fields. -/
def typeCheckFindings (s : Scope) : Findings :=
  Findings.concatMap s.document.entities fun e =>
    Findings.concatMap e.fields fun f =>
      s.typeFindings e f ("field '" ++ f.displayName ++ "' in entity '" ++ e.name ++ "'") f.type

/-- The findings of a foreign key constraint. -/
def foreignKeyFindings (s : Scope) (e : Entity) (f : Field) (c : Constraint) : Findings :=
  let place := "on field '" ++ f.displayName ++ "' in entity '" ++ e.name ++ "'"
  match c.value with
  | none =>
    .error ⟨.invalidConstraint, "FK " ++ place ++ " requires a value", some e.name,
      some f.displayName, some c.render⟩
  | some v =>
    match qualifiedName? (Text.trim v) with
    | none =>
      .error ⟨.invalidForeignKey, "'" ++ v ++ "' " ++ place ++ " should be EntityName.fieldName",
        some e.name, some f.displayName, some v⟩
    | some (entity, field) =>
      match s.entity? entity with
      | none => Scope.missingEntity entity ("FK " ++ place) (some e.name) (some f.displayName)
      | some target =>
        if target.fieldNames.contains field then .none
        else .warn ("Foreign key '" ++ v ++ "' " ++ place ++ " references unknown field '" ++
          field ++ "'")

/-- The findings of one constraint of a field. -/
def constraintFindings (s : Scope) (e : Entity) (f : Field) (c : Constraint) : Findings :=
  let place := "field '" ++ f.displayName ++ "' in entity '" ++ e.name ++ "'"
  match c.key with
  | "PK" =>
    if c.value.isSome then
      .warn ("Primary key constraint on '" ++ f.displayName ++ "' in entity '" ++ e.name ++
        "' should not have a value")
    else .none
  | "FK" => s.foreignKeyFindings e f c
  | "DEFAULT" | "ENUM" =>
    if c.value.isNone then
      .error ⟨.invalidConstraint, c.name ++ " on " ++ place ++ " requires a value", some e.name,
        some f.displayName, some c.name⟩
    else .none
  | key =>
    if knownConstraints.contains key then .none
    else .warn ("Unknown constraint '" ++ c.name ++ "' for " ++ place)

/-- The constraint findings of all fields. -/
def constraintCheckFindings (s : Scope) : Findings :=
  Findings.concatMap s.document.entities fun e =>
    Findings.concatMap e.fields fun f =>
      Findings.withEarlier f.constraints fun before c =>
        (if (before.map Constraint.key).contains c.key then
          .warn ("Duplicate constraint '" ++ c.name ++ "' for field '" ++ f.displayName ++
            "' in entity '" ++ e.name ++ "'")
        else .none) ++ s.constraintFindings e f c

end Scope

end SchemaNotation
