import SchemaNotation.Schema.Document
import SchemaNotation.Notation.Constraint
import SchemaNotation.Notation.Layout

/-! Writing a document in the notation's canonical layout.

The layout aligns field lines in three columns: sigils and names, `: type`, and constraint
groups. Each column is padded to its width, and a text as wide as its column or wider is
followed by one space. Constraints are joined into as few groups as read back to the same
constraints. Options choose the widths, whether comments and the front matter are kept, whether
relationship definitions are grouped by cardinality, and whether entities and fields are
sorted by name. Blank lines separate the parts; the text ends with one line break.

Padding is limited: a column wider than `maxPadWidth`, the largest machine-sized length,
overflows, and one wider than `memoryLimit` cannot be allocated. A field line that asks for such
a column cannot be written, and neither can a document holding such a field. -/

namespace SchemaNotation

open Notation

/-- Options of the canonical layout. Widths count characters and may be zero or negative. -/
structure Style where
  nameWidth : Int := 15
  typeWidth : Int := 20
  constraintColumn : Int := 40
  includeComments : Bool := true
  includeFrontMatter : Bool := true
  groupRelationships : Bool := false
  sortEntities : Bool := false
  sortFields : Bool := false
deriving BEq, Repr, Inhabited

/-- The widest column a line may be padded to: the largest machine-sized length, 2^63 - 1. -/
def maxPadWidth : Int := 9223372036854775807

/-- The widest column whose padding can be allocated: a tebibyte (2^40) of spaces. -/
def memoryLimit : Int := 1099511627776

/-- Why a layout cannot be written. -/
inductive LayoutFault where
  /-- A field line asks for a column wider than `maxPadWidth`. -/
  | tooWide
  /-- A field line asks for a column wider than `memoryLimit`. -/
  | outOfMemory
deriving BEq, Repr, Inhabited

/-- The exception a layout fault raises. -/
def LayoutFault.exceptionName : LayoutFault → String
  | .tooWide => "OverflowError"
  | .outOfMemory => "MemoryError"

/-- The message of a layout fault. -/
def LayoutFault.message : LayoutFault → String
  | .tooWide => "Python int too large to convert to C ssize_t"
  | .outOfMemory => ""

/-- The fault of padding a short text to a column of `width`, if any. -/
def LayoutFault.ofWidth? (width : Int) : Option LayoutFault :=
  if maxPadWidth < width then some .tooWide
  else if memoryLimit < width then some .outOfMemory
  else none

namespace Style

/-- A text padded with spaces to `width` characters, or followed by one space when it is that
wide already. -/
def pad (text : String) (width : Int) : String :=
  if width ≤ text.length then text ++ " "
  else text ++ String.ofList (List.replicate (width.toNat - text.length) ' ')

/-- An inline comment ` # text`, or nothing when there is none or comments are left out. -/
def comment (st : Style) : Option String → String
  | some c => if st.includeComments then " # " ++ c else ""
  | none => ""

/-- The constraints split into groups, each joined by commas, so that reading the groups gives
back the same constraints. -/
def constraintGroups (cs : List Constraint) : List String :=
  let step (groups : List (List Constraint)) (c : Constraint) : List (List Constraint) :=
    match groups with
    | (p :: g) :: more =>
      if opensConstraint c.name c.value.isSome (some p) then (c :: p :: g) :: more
      else [c] :: (p :: g) :: more
    | _ => [c] :: groups
  (cs.foldl step []).reverse.map fun g => ",".intercalate (g.reverse.map Constraint.render)

/-- The line of a field. -/
def fieldLine (st : Style) (f : Field) : String :=
  let sigils := String.ofList (f.sigils.map Sigil.symbol)
  let line := pad (sigils ++ " " ++ f.displayName) st.nameWidth ++ pad (": " ++ f.type.render) st.typeWidth
  let line :=
    if f.constraints.isEmpty then line
    else pad (Text.trimEnd line) st.constraintColumn ++
      " ".intercalate ((constraintGroups f.constraints).map fun g => "[" ++ g ++ "]")
  Text.trimEnd line ++ st.comment f.comment

/-- The fault of writing the line of a field, if any: of the first column it pads that is too
wide. The name and type columns are padded on every field line, the constraint column only when
there are constraints. -/
def faultOn? (st : Style) (f : Field) : Option LayoutFault :=
  match LayoutFault.ofWidth? st.nameWidth with
  | some fault => some fault
  | none =>
    match LayoutFault.ofWidth? st.typeWidth with
    | some fault => some fault
    | none => if f.constraints.isEmpty then none else LayoutFault.ofWidth? st.constraintColumn

/-- The lines of fields, unless one of them cannot be written. -/
def fieldLines (st : Style) (fs : List Field) : Except LayoutFault (List String) :=
  match fs.findSome? st.faultOn? with
  | some fault => .error fault
  | none => .ok (fs.map st.fieldLine)

/-- The line of a relationship definition. -/
def relationshipLine (st : Style) (r : Relationship) : String :=
  r.source ++ " -> " ++ r.target ++ " [" ++ r.cardinality.token ++ "]" ++
    (match r.nature with | some n => " (" ++ n.token ++ ")" | none => "") ++
    (match r.via with | some v => if v.isEmpty then "" else " via " ++ v | none => "") ++
    st.comment r.comment

/-- The title of the group of relationships of a cardinality. -/
def groupTitle : Cardinality → String
  | .oneToOne => "One-to-One Relationships"
  | .oneToMany => "One-to-Many Relationships"
  | .manyToMany => "Many-to-Many Relationships"
  | .inheritance => "Inheritance Relationships"
  | .composition => "Composition Relationships"
  | .aggregation => "Aggregation Relationships"

/-- The lines of the relationship block. -/
def relationshipLines (st : Style) (rs : List Relationship) : List String :=
  relationshipBlockMarker ::
    if st.groupRelationships then
      Cardinality.all.flatMap fun c =>
        match rs.filter (·.cardinality == c) with
        | [] => []
        | group => ("# " ++ groupTitle c) :: group.map st.relationshipLine ++ [""]
    else rs.map st.relationshipLine ++ [""]

/-- The lines of an entity, with a blank line after it. -/
def entityLines (st : Style) (e : Entity) : List String :=
  let fields := if st.sortFields then e.fields.mergeSort fun a b => decide (a.name ≤ b.name)
    else e.fields
  [e.name ++ st.comment e.comment, if e.isEmbedded then "/=========/" else "=========="] ++
    fields.map st.fieldLine ++
    e.linkSections.flatMap (fun s =>
      linkSectionMarker :: s.notes.map (fun t => Text.trimEnd (noteMarker ++ " " ++ t)) ++
        s.links.map fun l =>
          "## " ++ l.sourceEntity ++ "." ++ l.sourceField ++ " -> " ++ l.targetEntity ++ "." ++
            l.targetField ++ st.comment l.comment) ++
    e.features.flatMap (fun f => ("# " ++ f.title) :: f.content) ++ [""]

/-- The lines of a module section. -/
def sectionLines (st : Style) (s : ModuleSection) : List String :=
  let entities := if st.sortEntities then s.entities.mergeSort fun a b => decide (a.name ≤ b.name)
    else s.entities
  ("=== " ++ s.name ++ " ===") ::
    (match s.description with | some d => if d.isEmpty then [] else [d] | none => []) ++ [""] ++
    entities.flatMap st.entityLines

/-- All lines of a document, before trailing blank lines are dropped. -/
def documentLines (st : Style) (d : Document) : List String :=
  (if !d.metadata.entries.isEmpty && st.includeFrontMatter then
    frontMatterMarker :: d.metadata.entries.map (fun (k, v) => Text.trimEnd (k ++ ": " ++ v)) ++
      [frontMatterMarker, ""]
  else []) ++
  (match d.header with | some f => ["@" ++ f ++ fileExtension, ""] | none => []) ++
  (if !d.comments.isEmpty && st.includeComments then
    d.comments.map (fun c => Text.trimEnd ("# " ++ c)) ++ [""]
  else []) ++
  (match d.relationships with | some rs => st.relationshipLines rs | none => []) ++
  schemaBlockMarker :: d.schema.modules.map (fun m => "+ " ++ m) ++ [""] ++
  d.schema.sections.flatMap st.sectionLines

end Style

/-- A document written in the canonical layout. -/
def Document.format (d : Document) (st : Style) : String :=
  "\n".intercalate ((st.documentLines d).reverse.dropWhile String.isEmpty).reverse ++ "\n"

/-- The fault of writing a document, if any: that of some field of some entity. Every field
line pads the same name and type columns, and every one with constraints the same constraint
column, so the fault does not depend on which field is written first. -/
def Document.layoutFault? (d : Document) (st : Style) : Option LayoutFault :=
  (d.schema.sections.flatMap fun s => s.entities.flatMap (·.fields)).findSome? st.faultOn?

/-- A document written in the canonical layout, unless a field line cannot be written. -/
def Document.layout (d : Document) (st : Style) : Except LayoutFault String :=
  match d.layoutFault? st with
  | some fault => .error fault
  | none => .ok (d.format st)

end SchemaNotation
