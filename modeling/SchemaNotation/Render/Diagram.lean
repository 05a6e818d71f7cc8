import SchemaNotation.Schema.Resolve

/-! Mermaid entity-relationship diagrams.

A diagram opens with a theme directive and `erDiagram`. Each entity becomes a block that lists
its fields as `type name KEYS "facets"`: the keys are `PK`, `FK` and `UK` (for `UK` or `UNIQUE`),
and the facets are the words of the field's sigils, `embedded` for a field that holds an
embedded entity, and every other constraint as written. Each declared relationship becomes an
edge labelled by its comment, or by a verb of its cardinality. Names are made identifiers:
each run of characters other than ASCII letters, digits and the underscore becomes one
underscore, and underscores at the ends are dropped. -/

namespace SchemaNotation

/-- A diagram theme. -/
inductive Theme where
  | default
  | dark
  | neutral
  | base
deriving BEq, Repr, Inhabited, DecidableEq

namespace Theme

/-- The name of a theme. -/
def name : Theme → String
  | .default => "default"
  | .dark => "dark"
  | .neutral => "neutral"
  | .base => "base"

/-- The theme of a given name, if there is one. -/
def ofName? (s : String) : Option Theme :=
  [Theme.default, .dark, .neutral, .base].find? (·.name == s)

/-- The directive line that selects a theme. -/
def directive (t : Theme) : String :=
  "%%\x7binit: \x7b'theme':'" ++ t.name ++ "'\x7d\x7d%%"

end Theme

/-- Options of a diagram. -/
structure DiagramStyle where
  includeComments : Bool := true
  includeTypes : Bool := true
  includeConstraints : Bool := true
  maxFields : Int := 15
  theme : Theme := .default
deriving BEq, Repr, Inhabited

namespace Diagram

/-- Whether a character may stand in a diagram identifier. -/
def isSafe (c : Char) : Bool := c.isAlphanum || c == '_'

/-- The characters of `cs` with each run of unsafe characters made one underscore; `inRun`
tells whether the character before was unsafe. -/
def collapse : List Char → Bool → List Char
  | [], _ => []
  | c :: rest, inRun =>
    if isSafe c then c :: collapse rest false
    else if inRun then collapse rest true
    else '_' :: collapse rest true

/-- A name made a diagram identifier; `unnamed` when nothing is left. -/
def sanitize (name : String) : String :=
  let cs := collapse name.toList false
  let cs := ((cs.dropWhile (· == '_')).reverse.dropWhile (· == '_')).reverse
  if cs.isEmpty then "unnamed" else String.ofList cs

/-- The diagram type of a field's data type. -/
def typeName : DataType → String
  | .simple name => sanitize name
  | .parametric name params => sanitize ("_".intercalate (name :: params))
  | .array inner => "Array_" ++ typeName inner
  | .json _ => "JSON"
  | .collection entity _ => "Array_" ++ sanitize entity
  | .embedded entity => sanitize entity

/-- Whether a type is an embedded entity, directly or as the items of arrays. -/
def embedsEntity : DataType → Bool
  | .array inner => embedsEntity inner
  | .embedded _ => true
  | _ => false

/-- A text in double quotes, its double quotes made single. -/
def quote (s : String) : String := "\"" ++ s.map (fun c => if c == '"' then '\'' else c) ++ "\""

/-- The diagram key of a constraint name. -/
def keyOf? (name : String) : Option String :=
  match Text.upper name with
  | "PK" => some "PK"
  | "FK" => some "FK"
  | "UK" => some "UK"
  | "UNIQUE" => some "UK"
  | _ => none

/-- The arrow of an edge of the given cardinality. -/
def arrow : Cardinality → String
  | .oneToOne => "||--||"
  | .oneToMany => "||--o\x7b"
  | .manyToMany => "\x7do--o\x7b"
  | .composition => "||--o\x7b"
  | .aggregation => "||--o\x7b"
  | .inheritance => "||--||"

/-- The verb that labels an edge of the given cardinality. -/
def verb : Cardinality → String
  | .oneToOne => "relates to"
  | .oneToMany => "has"
  | .manyToMany => "relates to"
  | .composition => "contains"
  | .aggregation => "includes"
  | .inheritance => "inherits"

/-- The items of a list without repeats, each where it first appears. -/
def dedup {α : Type} [BEq α] (xs : List α) : List α :=
  xs.foldl (fun seen x => if seen.contains x then seen else seen ++ [x]) []

/-- The keys and facets of a field after one more of its constraints: a key constraint adds its
key unless it is there already, and any other constraint adds its notation to the facets. -/
def addConstraint (acc : List String × List String) (c : Constraint) : List String × List String :=
  match keyOf? c.name with
  | some k => (if acc.1.contains k then acc.1 else acc.1 ++ [k], acc.2)
  | none => (acc.1, acc.2 ++ [c.render])

/-- The attribute line of a field, without indentation. -/
def attributeLine (st : DiagramStyle) (f : Field) : String :=
  let parts := [if st.includeTypes then typeName f.type else "String", sanitize f.name]
  if !st.includeConstraints then " ".intercalate parts
  else
    let facets := (dedup f.sigils).map Sigil.word ++ (if embedsEntity f.type then ["embedded"] else [])
    let sorted := f.constraints.foldl addConstraint ([], facets)
    let parts := parts ++ (if sorted.1.isEmpty then [] else [",".intercalate sorted.1]) ++
      (if sorted.2.isEmpty then [] else [quote (", ".intercalate sorted.2)])
    " ".intercalate parts

/-- The first fields of a list up to a limit; a negative limit drops that many from the end. -/
def upTo {α : Type} (xs : List α) (limit : Int) : List α :=
  if 0 ≤ limit then xs.take limit.toNat else xs.take (xs.length - limit.natAbs)

/-- The block of an entity. -/
def entityLines (st : DiagramStyle) (e : Entity) : List String :=
  ("    " ++ sanitize e.name ++ " \x7b") ::
    (match e.comment with
      | some c => if st.includeComments && !c.isEmpty then ["        %% " ++ c] else []
      | none => []) ++
    (upTo e.fields st.maxFields).map (fun f => "        " ++ attributeLine st f) ++
    (if st.maxFields < e.fields.length then
      ["        String truncated_fields \"... and " ++ toString (e.fields.length - st.maxFields) ++
        " more fields\""]
    else []) ++ ["    \x7d"]

/-- The edge of a relationship. -/
def edgeLine (r : Relationship) : String :=
  let label := match r.comment with
    | some c => if c.isEmpty then verb r.cardinality else c
    | none => verb r.cardinality
  "    " ++ sanitize r.source ++ " " ++ arrow r.cardinality ++ " " ++ sanitize r.target ++ " : " ++
    quote label

end Diagram

/-- The Mermaid diagram of a document, with references to embedded entities resolved. -/
def Document.diagram (d : Document) (st : DiagramStyle) : String :=
  let d := d.resolve
  let lines := [st.theme.directive, "erDiagram"] ++
    (match d.header with
      | some f => if st.includeComments then ["    %% Generated from: " ++ f] else []
      | none => []) ++
    d.entities.flatMap (Diagram.entityLines st) ++
    (match d.relationshipList with
      | [] => []
      | rs => ["", "    %% Relationships"] ++ rs.map Diagram.edgeLine)
  "\n".intercalate lines ++ "\n"

end SchemaNotation
