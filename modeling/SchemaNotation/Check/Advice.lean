import SchemaNotation.Check.Issue
import SchemaNotation.Check.Rules
import SchemaNotation.Notation.Identifier
import SchemaNotation.Text.Blank

/-! Advisory checks: the header, the likely complexity of entities, and cross-references.

The header should name a file by an identifier. An entity with few fields may be missing
complex structures; a JSON object with many properties, or an array of JSON objects, may be
better an embedded entity; an entity whose name matches a substructure pattern should carry a
field matching one of its hints. Modules listed and module sections should agree, every
foreign key to another entity should have a relationship definition that links the two (when
there are any), and every field link should name existing entities. -/

namespace SchemaNotation

namespace Scope

/-- Whether a text is a header file name: an ASCII letter, then ASCII letters, digits and
underscores. -/
def isFileName (s : String) : Bool :=
  match s.toList with
  | c :: rest => c.isAlpha && rest.all Notation.isIdentChar
  | [] => false

/-- The findings of the header. -/
def headerFindings (s : Scope) : Findings :=
  match s.document.header with
  | none => .warn "No header found in document"
  | some f =>
    if f.isEmpty then .warn "Empty filename in header"
    else if isFileName f then .none
    else .warn ("Header filename '" ++ f ++ "' should be a valid identifier")

/-- The advice on the complexity of entities. -/
def complexityFindings (s : Scope) (r : Rules) : Findings :=
  Findings.concatMap s.document.entities fun e =>
    (if e.fields.length < r.minFields && !r.allowsFewFields e.name then
      .warn ("Entity '" ++ e.name ++ "' has only " ++ toString e.fields.length ++
        " fields - may be missing complex structures")
    else .none) ++
    Findings.concatMap e.fields (fun f =>
      (match f.type with
        | .json props =>
          if r.maxProperties < props.length then
            .warn ("Field '" ++ f.displayName ++ "' in entity '" ++ e.name ++
              "' is a JSON object with " ++ toString props.length ++
              " properties - consider an embedded entity")
          else .none
        | _ => .none) ++
      (match f.type with
        | .array (.json _) =>
          .warn ("Field '" ++ f.displayName ++ "' in entity '" ++ e.name ++
            "' is Array<JSON> - consider an embedded entity relationship")
        | _ => .none)) ++
    Findings.concatMap (r.expectedSubstructures e.name) fun (_, hints) =>
      if Rules.hasHint e.fieldNames hints then .none
      else .warn ("Entity '" ++ e.name ++ "' may be missing expected complex fields: " ++
        ", ".intercalate hints)

/-- The pairs of entities that a relationship links, both ways, junctions included. -/
def linkedPairs (rs : List Relationship) : List (String × String) :=
  rs.flatMap fun r =>
    [(r.source, r.target), (r.target, r.source)] ++
      match r.via with
      | some v =>
        if v.isEmpty then []
        else [(v, r.source), (v, r.target), (r.source, v), (r.target, v)]
      | none => []

/-- The advice on the foreign key of field `f` of entity `e`: given when the key names another
entity that no pair of `linked` joins to `e`. Only the field's first `FK` constraint is read. -/
def keyLinkFindings (s : Scope) (linked : List (String × String)) (e : Entity) (f : Field) :
    Findings :=
  match f.constraint? "FK" with
  | some ⟨_, some v⟩ =>
    match Notation.qualifiedName? (Text.trim v) with
    | some (entity, _) =>
      if !s.hasEntity entity || entity == e.name || linked.contains (e.name, entity) then .none
      else .warn ("Foreign key " ++ e.name ++ "." ++ f.name ++ " -> " ++ v ++
        " has no matching relationship definition")
    | none => .none
  | _ => .none

/-- The advice on foreign keys, given only when the document declares relationships. -/
def keyLinksFindings (s : Scope) : Findings :=
  match s.document.relationshipList with
  | [] => .none
  | rs =>
    let linked := linkedPairs rs
    Findings.concatMap s.document.entities fun e =>
      Findings.concatMap e.fields (s.keyLinkFindings linked e)

/-- The cross-reference findings. -/
def crossReferenceFindings (s : Scope) : Findings :=
  let declared := s.document.schema.modules
  let present := s.document.schema.sections.map ModuleSection.name
  Findings.concatMap declared (fun n =>
    if present.contains n then .none
    else .warn ("Module '" ++ n ++ "' is declared but has no section")) ++
  Findings.concatMap present (fun n =>
    if declared.contains n then .none
    else .warn ("Module section '" ++ n ++ "' is not declared in the module list")) ++
  s.keyLinksFindings ++
  Findings.concatMap s.document.entities fun e =>
    Findings.concatMap (e.linkSections.flatMap LinkSection.links) fun l =>
      Findings.concatMap [l.sourceEntity, l.targetEntity] fun n =>
        if s.hasEntity n then .none
        else .warn ("Relationship detail in entity '" ++ e.name ++
          "' references unknown entity '" ++ n ++ "'")

end Scope

end SchemaNotation
