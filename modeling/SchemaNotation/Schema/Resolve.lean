import SchemaNotation.Schema.Document

/-! Resolving references to embedded entities.

A bare type name cannot be told from an entity name while a line is read. Once the document is
known, every bare name that equals the name of an embedded entity becomes a reference to it,
also inside arrays and the properties of JSON objects. Other types stay as they are. -/

namespace SchemaNotation

mutual
/-- A type with bare names of the given embedded entities made references. -/
def DataType.resolve (embedded : List String) : DataType → DataType
  | .simple name => if embedded.contains name then .embedded name else .simple name
  | .array inner => .array (inner.resolve embedded)
  | .json props => .json (DataType.resolveProperties embedded props)
  | t => t

/-- The properties of an object type, resolved. -/
def DataType.resolveProperties (embedded : List String) :
    List (String × DataType) → List (String × DataType)
  | [] => []
  | (name, type) :: rest => (name, type.resolve embedded) :: DataType.resolveProperties embedded rest
end

namespace Document

/-- The names of the embedded entities of a document. -/
def embeddedNames (d : Document) : List String :=
  (d.entities.filter Entity.isEmbedded).map Entity.name

/-- The document with references to its embedded entities resolved in every field's type. -/
def resolve (d : Document) : Document :=
  let embedded := d.embeddedNames
  if embedded.isEmpty then d
  else
    let fixEntity (e : Entity) : Entity :=
      { e with fields := e.fields.map fun f => { f with type := f.type.resolve embedded } }
    { d with schema := { d.schema with
        sections := d.schema.sections.map fun s => { s with entities := s.entities.map fixEntity } } }

end Document

end SchemaNotation
