import SchemaNotation.Schema.Resolve

/-! Findings of validation.

Validation finds errors, which make a document invalid, and warnings, which are advice. An
error has a kind, a detail text, and the entity, field and offending value it concerns; its
message is the kind's label, a colon and the detail. Checks run over a `Scope`: the document with
embedded references resolved, and the names of its entities. -/

namespace SchemaNotation

/-- The kinds of validation errors. -/
inductive IssueKind where
  | duplicateEntityName
  | duplicateFieldName
  | invalidFieldPrefix
  | invalidDataType
  | invalidConstraint
  | missingPrimaryKey
  | invalidForeignKey
  | circularReference
  | invalidRelationship
  | invalidCardinality
  | missingRequiredEntity
  | inconsistentRelationship
deriving BEq, Repr, Inhabited, DecidableEq

namespace IssueKind

/-- The code of a kind. -/
def code : IssueKind → String
  | .duplicateEntityName => "duplicate_entity_name"
  | .duplicateFieldName => "duplicate_field_name"
  | .invalidFieldPrefix => "invalid_field_prefix"
  | .invalidDataType => "invalid_data_type"
  | .invalidConstraint => "invalid_constraint"
  | .missingPrimaryKey => "missing_primary_key"
  | .invalidForeignKey => "invalid_foreign_key"
  | .circularReference => "circular_reference"
  | .invalidRelationship => "invalid_relationship"
  | .invalidCardinality => "invalid_cardinality"
  | .missingRequiredEntity => "missing_required_entity"
  | .inconsistentRelationship => "inconsistent_relationship"

/-- The label that opens the message of an error of a kind. -/
def label : IssueKind → String
  | .duplicateEntityName => "Duplicate entity name"
  | .duplicateFieldName => "Duplicate field name"
  | .invalidFieldPrefix => "Invalid field prefix"
  | .invalidDataType => "Invalid data type"
  | .invalidConstraint => "Invalid constraint"
  | .missingPrimaryKey => "Missing primary key"
  | .invalidForeignKey => "Invalid foreign key"
  | .circularReference => "Circular reference detected"
  | .invalidRelationship => "Invalid relationship"
  | .invalidCardinality => "Invalid cardinality"
  | .missingRequiredEntity => "Missing required entity"
  | .inconsistentRelationship => "Inconsistent relationship"

end IssueKind

/-- A validation error. -/
structure Issue where
  kind : IssueKind
  detail : String
  entity : Option String := none
  field : Option String := none
  target : Option String := none
deriving BEq, Repr, Inhabited

/-- The message of an error: its kind's label and its detail. -/
def Issue.message (i : Issue) : String := i.kind.label ++ ": " ++ i.detail

/-- Errors and warnings, each in the order found. -/
structure Findings where
  errors : List Issue := []
  warnings : List String := []
deriving BEq, Repr, Inhabited

namespace Findings

instance : Append Findings := ⟨fun a b => ⟨a.errors ++ b.errors, a.warnings ++ b.warnings⟩⟩

/-- One error. -/
def error (i : Issue) : Findings := { errors := [i] }

/-- One warning. -/
def warn (w : String) : Findings := { warnings := [w] }

/-- Nothing found. -/
def none : Findings := {}

/-- The findings of each item, in order. -/
def concatMap {α : Type} (xs : List α) (f : α → Findings) : Findings :=
  xs.foldl (fun acc x => acc ++ f x) none

/-- The findings of each item, given the items before it. -/
def withEarlier {α : Type} (xs : List α) (f : List α → α → Findings) : Findings :=
  (xs.foldl (fun (acc : List α × Findings) x => (acc.1 ++ [x], acc.2 ++ f acc.1 x)) ([], none)).2

/-- Whether no error was found. -/
def isValid (f : Findings) : Bool := f.errors.isEmpty

end Findings

/-- What checks look at: a document with embedded references resolved, and the names of its
entities. -/
structure Scope where
  document : Document
  entityNames : List String

namespace Scope

/-- The scope of a document. -/
def ofDocument (d : Document) : Scope :=
  let d := d.resolve
  ⟨d, d.entities.map Entity.name⟩

/-- Whether an entity of the given name exists. -/
def hasEntity (s : Scope) (name : String) : Bool := s.entityNames.contains name

/-- The first entity of the given name. -/
def entity? (s : Scope) (name : String) : Option Entity := s.document.findEntity? name

/-- The error for a reference to an entity that does not exist. -/
def missingEntity (name referrer : String) (entity field : Option String) : Findings :=
  .error ⟨.missingRequiredEntity, name ++ " (referenced by " ++ referrer ++ ")", entity, field,
    some name⟩

end Scope

end SchemaNotation
