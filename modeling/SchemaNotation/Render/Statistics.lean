import SchemaNotation.Schema.Document
import SchemaNotation.Text.Blank

/-! Statistics of a document.

The statistics count entities (standard and embedded), fields, relationships and module
sections, the entities of each module (a name used by two sections sums both), and how often
each data type, constraint name and sigil is used. A usage count lists the most used first,
names used equally often in the order they first appear. A data type counts by its name; an
array counts as `Array` and its item type; a JSON object as `JSON`; a collection or embedded
reference by its entity. -/

namespace SchemaNotation

/-- Counts of names, each name once, in the order names first appeared. -/
structure Tally where
  entries : List (String × Nat)
deriving BEq, Repr, Inhabited

namespace Tally

/-- No counts. -/
def empty : Tally := ⟨[]⟩

/-- Adds `k` to the count of a name. -/
def add (t : Tally) (name : String) (k : Nat) : Tally :=
  if t.entries.any (·.1 == name) then
    ⟨t.entries.map fun (n, c) => if n == name then (n, c + k) else (n, c)⟩
  else ⟨t.entries ++ [(name, k)]⟩

/-- The counts, most first; equal counts in the order the names first appeared. -/
def mostCommon (t : Tally) : List (String × Nat) :=
  t.entries.mergeSort fun a b => decide (b.2 ≤ a.2)

end Tally

/-- The names under which a data type is counted. -/
def DataType.usageNames : DataType → List String
  | .simple name => [name]
  | .parametric name _ => [name]
  | .array inner => "Array" :: inner.usageNames
  | .json _ => ["JSON"]
  | .collection entity _ => [entity]
  | .embedded entity => [entity]

/-- Statistics of a document. -/
structure Statistics where
  totalEntities : Nat
  standardEntities : Nat
  embeddedEntities : Nat
  totalFields : Nat
  totalRelationships : Nat
  moduleCount : Nat
  modules : List (String × Nat)
  dataTypes : List (String × Nat)
  constraints : List (String × Nat)
  sigils : List (String × Nat)
deriving BEq, Repr, Inhabited

/-- The statistics of a document. -/
def Document.statistics (d : Document) : Statistics :=
  let entities := d.entities
  let fields := entities.flatMap Entity.fields
  let modules := d.schema.sections.foldl (fun t s => t.add s.name s.entities.length) Tally.empty
  let tally (names : List String) : Tally := names.foldl (fun t n => t.add n 1) Tally.empty
  { totalEntities := entities.length
    standardEntities := (entities.filter (!·.isEmbedded)).length
    embeddedEntities := (entities.filter Entity.isEmbedded).length
    totalFields := fields.length
    totalRelationships := d.relationshipList.length
    moduleCount := d.schema.sections.length
    modules := modules.entries
    dataTypes := (tally (fields.flatMap (·.type.usageNames))).mostCommon
    constraints := (tally (fields.flatMap fun f => f.constraints.map Constraint.name)).mostCommon
    sigils := (tally (fields.flatMap fun f => f.sigils.map (·.symbol.toString))).mostCommon }

namespace Statistics

/-- The lines `  name: count` of a list of counts. -/
def countLines (counts : List (String × Nat)) : List String :=
  counts.map fun (n, c) => "  " ++ n ++ ": " ++ toString c

/-- A titled part of the report, if it has counts. -/
def part (title : String) (counts : List (String × Nat)) : List String :=
  if counts.isEmpty then [] else (title ++ ":") :: countLines counts ++ [""]

/-- The plain-text report of statistics; modules are listed by name. -/
def report (s : Statistics) : String :=
  let lines := ["=== DBSoup Statistics ===", "", "Entities:",
    "  Total: " ++ toString s.totalEntities, "  Standard: " ++ toString s.standardEntities,
    "  Embedded: " ++ toString s.embeddedEntities, "",
    "Fields: " ++ toString s.totalFields, "Relationships: " ++ toString s.totalRelationships,
    "Modules: " ++ toString s.moduleCount, ""] ++
    part "Entities per Module" (s.modules.mergeSort fun a b => decide (a.1 ≤ b.1)) ++
    part "Data Type Usage" s.dataTypes ++ part "Constraint Usage" s.constraints ++
    part "Field Prefix Usage" s.sigils
  Text.trimEnd ("\n".intercalate lines) ++ "\n"

end Statistics

end SchemaNotation
