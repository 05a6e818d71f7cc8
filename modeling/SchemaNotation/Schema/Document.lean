import SchemaNotation.Schema.Field
import SchemaNotation.Schema.Relationship

/-! Entities, module sections and whole documents.

A document holds an optional front matter of key-value pairs, comments, an optional header
naming the schema file, an optional block of relationship definitions, and the schema: a list of
declared module names and the module sections, each a list of entities. An entity is standard
or embedded, holds fields, and may end with relationship sections (notes and field links) and
titled feature sections of free text. -/

namespace SchemaNotation

/-- Whether an entity stands on its own or lives inside others. -/
inductive EntityKind where
  | standard
  | embedded
deriving BEq, Repr, Inhabited, DecidableEq

/-- The word for an entity kind. -/
def EntityKind.word : EntityKind → String
  | .standard => "standard"
  | .embedded => "embedded"

/-- A relationship section of an entity: free-text relationship notes and field links. -/
structure LinkSection where
  notes : List String
  links : List Link
deriving BEq, Repr, Inhabited

/-- A titled section of free text under an entity. -/
structure Feature where
  title : String
  content : List String
deriving BEq, Repr, Inhabited

/-- An entity: a named record type with its fields. -/
structure Entity where
  name : String
  kind : EntityKind
  fields : List Field
  linkSections : List LinkSection
  features : List Feature
  comment : Option String
deriving BEq, Repr, Inhabited

namespace Entity

/-- Whether the entity is embedded. -/
def isEmbedded (e : Entity) : Bool := e.kind == .embedded

/-- The fields that carry a primary key constraint. -/
def keyFields (e : Entity) : List Field := e.fields.filter Field.isKey

/-- Every name of every field, in order. -/
def fieldNames (e : Entity) : List String := e.fields.flatMap Field.names

end Entity

/-- A module section: a named group of entities with an optional description. -/
structure ModuleSection where
  name : String
  description : Option String
  entities : List Entity
deriving BEq, Repr, Inhabited

/-- The schema: the declared module names and the module sections. -/
structure Schema where
  modules : List String
  sections : List ModuleSection
deriving BEq, Repr, Inhabited

/-- Front matter: keys with values, each key once, in the order keys first appeared. -/
structure Metadata where
  entries : List (String × String)
deriving BEq, Repr, Inhabited

namespace Metadata

/-- No entries. -/
def empty : Metadata := ⟨[]⟩

/-- Sets a key's value; a new key goes last, a known key keeps its place. -/
def insert (m : Metadata) (key value : String) : Metadata :=
  if m.entries.any (·.1 == key) then
    ⟨m.entries.map fun (k, v) => if k == key then (k, value) else (k, v)⟩
  else ⟨m.entries ++ [(key, value)]⟩

/-- The value of a key. -/
def get? (m : Metadata) (key : String) : Option String := m.entries.lookup key

/-- Whether two front matters hold the same keys with the same values, in any order. -/
def sameEntries (m n : Metadata) : Bool :=
  m.entries.length == n.entries.length && m.entries.all fun (k, v) => n.get? k == some v

end Metadata

/-- A parsed document. -/
structure Document where
  schema : Schema
  header : Option String
  relationships : Option (List Relationship)
  comments : List String
  metadata : Metadata
deriving BEq, Repr, Inhabited

namespace Document

/-- All entities in document order, across the module sections. -/
def entities (d : Document) : List Entity := d.schema.sections.flatMap ModuleSection.entities

/-- The declared relationships; none when there is no definitions block. -/
def relationshipList (d : Document) : List Relationship := d.relationships.getD []

/-- The first entity of the given name. -/
def findEntity? (d : Document) (name : String) : Option Entity :=
  d.entities.find? (·.name == name)

/-- Whether two documents are equal, their front matters compared as sets of entries. -/
def sameAs (d e : Document) : Bool :=
  d.schema == e.schema && d.header == e.header && d.relationships == e.relationships &&
    d.comments == e.comments && d.metadata.sameEntries e.metadata

end Document

end SchemaNotation
