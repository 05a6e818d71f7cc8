import SchemaNotation.Json.Value
import SchemaNotation.Schema.Document

/-! Documents as JSON.

Every part of a document becomes an object whose keys follow the parts' fields in order: a
document has `schema_definition`, `header`, `relationship_definitions`, `comments` and
`metadata`; a data type carries its `kind` last. Absent optional parts are `null`. -/

namespace SchemaNotation

/-- A multiplicity as JSON. -/
def Multiplicity.toJson (m : Multiplicity) : Json :=
  .obj [("min", .num m.min), ("max", match m.max with | some n => .num n | none => .null)]

mutual
/-- A data type as JSON, tagged by its kind. -/
def DataType.toJson : DataType → Json
  | .simple name => .obj [("name", .str name), ("kind", .str "simple")]
  | .parametric name params =>
    .obj [("name", .str name), ("params", Json.strs params), ("kind", .str "parametric")]
  | .array inner => .obj [("inner", inner.toJson), ("kind", .str "array")]
  | .json props => .obj [("fields", .arr (DataType.propertiesToJson props)), ("kind", .str "json")]
  | .collection entity bounds =>
    .obj [("entity", .str entity), ("cardinality", bounds.toJson),
      ("kind", .str "relationship_array")]
  | .embedded entity => .obj [("entity", .str entity), ("kind", .str "embedded_entity")]

/-- The properties of a JSON object type as JSON. -/
def DataType.propertiesToJson : List (String × DataType) → List Json
  | [] => []
  | (name, type) :: rest =>
    .obj [("name", .str name), ("data_type", type.toJson)] :: DataType.propertiesToJson rest
end

/-- A constraint as JSON. -/
def Constraint.toJson (c : Constraint) : Json :=
  .obj [("name", .str c.name), ("value", .optStr c.value)]

/-- A field as JSON. -/
def Field.toJson (f : Field) : Json :=
  .obj [("prefixes", .arr (f.sigils.map fun s => .str s.symbol.toString)),
    ("names", Json.strs f.names), ("data_type", f.type.toJson),
    ("constraints", .arr (f.constraints.map Constraint.toJson)), ("comment", .optStr f.comment)]

/-- A link as JSON. -/
def Link.toJson (l : Link) : Json :=
  .obj [("from_entity", .str l.sourceEntity), ("from_field", .str l.sourceField),
    ("to_entity", .str l.targetEntity), ("to_field", .str l.targetField),
    ("comment", .optStr l.comment)]

/-- An entity as JSON. -/
def Entity.toJson (e : Entity) : Json :=
  .obj [("name", .str e.name), ("type", .str e.kind.word),
    ("fields", .arr (e.fields.map Field.toJson)),
    ("relationship_sections", .arr (e.linkSections.map fun s =>
      .obj [("relationships", Json.strs s.notes), ("details", .arr (s.links.map Link.toJson))])),
    ("feature_sections", .arr (e.features.map fun f =>
      .obj [("title", .str f.title), ("content", Json.strs f.content)])),
    ("comment", .optStr e.comment)]

/-- A relationship as JSON. -/
def Relationship.toJson (r : Relationship) : Json :=
  .obj [("from_entity", .str r.source), ("to_entity", .str r.target),
    ("cardinality", .str r.cardinality.token),
    ("nature", match r.nature with | some n => .str n.token | none => .null),
    ("via_entity", .optStr r.via), ("comment", .optStr r.comment)]

/-- A module section as JSON. -/
def ModuleSection.toJson (s : ModuleSection) : Json :=
  .obj [("name", .str s.name), ("description", .optStr s.description),
    ("entities", .arr (s.entities.map Entity.toJson))]

/-- A document as JSON, its front matter as an object. -/
def Document.toJson (d : Document) : Json :=
  .obj [("schema_definition", .obj [("modules", Json.strs d.schema.modules),
      ("sections", .arr (d.schema.sections.map ModuleSection.toJson))]),
    ("header", match d.header with | some f => .obj [("filename", .str f)] | none => .null),
    ("relationship_definitions", match d.relationships with
      | some rs => .obj [("relationships", .arr (rs.map Relationship.toJson))]
      | none => .null),
    ("comments", Json.strs d.comments),
    ("metadata", .obj (d.metadata.entries.map fun (k, v) => (k, .str v)))]

end SchemaNotation
