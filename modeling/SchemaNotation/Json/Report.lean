import SchemaNotation.Json.Value
import SchemaNotation.Check.Issue
import SchemaNotation.Render.Statistics

/-! Validation findings and statistics as JSON.

An error becomes an object of its kind's code, its detail, the entity, field and offending value
it concerns, and its message; the findings on a file become an object that names the file, says
whether it is valid, and lists the errors and the warning texts. Statistics become an object of
six counts and four tallies, each tally an object from names to counts in the tally's order. -/

namespace SchemaNotation

/-- An error as JSON. -/
def Issue.toJson (i : Issue) : Json :=
  .obj [("kind", .str i.kind.code), ("detail", .str i.detail), ("entity", Json.optStr i.entity),
    ("field", Json.optStr i.field), ("target", Json.optStr i.target), ("message", .str i.message)]

/-- The findings on the file `file` as JSON. -/
def Findings.toJson (file : String) (f : Findings) : Json :=
  .obj [("file", .str file), ("is_valid", .bool f.isValid), ("errors", .arr (f.errors.map Issue.toJson)),
    ("warnings", Json.strs f.warnings)]

/-- A tally as a JSON object from names to counts. -/
def Json.ofCounts (counts : List (String × Nat)) : Json :=
  .obj (counts.map fun (n, c) => (n, .num c))

/-- Statistics as JSON. -/
def Statistics.toJson (s : Statistics) : Json :=
  .obj [("total_entities", .num s.totalEntities), ("standard_entities", .num s.standardEntities),
    ("embedded_entities", .num s.embeddedEntities), ("total_fields", .num s.totalFields),
    ("total_relationships", .num s.totalRelationships), ("module_count", .num s.moduleCount),
    ("modules", Json.ofCounts s.modules), ("data_types", Json.ofCounts s.dataTypes),
    ("constraints", Json.ofCounts s.constraints), ("field_prefixes", Json.ofCounts s.sigils)]

end SchemaNotation
