import SchemaNotation.Proofs.PassReports

/-! Errors of shape: parametric types with the wrong parameters, and impossible multiplicities.

The type pass reports for a field's type what each of its nodes reports by itself, in pre-order
(`Scope.typeFindings_reports`). A parametric node is an error when its parameters break the shape
its name asks for (`BreaksShape`), and a collection node is one error for a negative minimum and
one for a maximum below the minimum. Resolution touches neither kind of node, so
`Document.validate_shape_errors` describes these errors of any document by the document itself:
one for each offending node, in the order of the entities, their fields and the nodes of each
type, each naming the entity, the field and the offending type or multiplicity. -/

namespace SchemaNotation

open Notation

namespace DataType

/-- The parametric types within a type, in pre-order. -/
def parametrics (t : DataType) : List (String × List String) := t.labels.filterMap TypeNode.parametric?

/-- The collection types within a type, in pre-order. -/
def collections (t : DataType) : List (String × Multiplicity) := t.labels.filterMap TypeNode.collection?

variable (embedded : List String)

theorem parametric?_resolve (l : TypeNode) : (l.resolve embedded).parametric? = l.parametric? := by
  cases l with
  | simple n => by_cases h : n ∈ embedded <;> simp [TypeNode.resolve, h, TypeNode.parametric?]
  | _ => rfl

theorem collection?_resolve (l : TypeNode) : (l.resolve embedded).collection? = l.collection? := by
  cases l with
  | simple n => by_cases h : n ∈ embedded <;> simp [TypeNode.resolve, h, TypeNode.collection?]
  | _ => rfl

theorem parametrics_resolve (t : DataType) : (t.resolve embedded).parametrics = t.parametrics := by
  simp [parametrics, labels_resolve, List.filterMap_map, parametric?_resolve]

theorem collections_resolve (t : DataType) : (t.resolve embedded).collections = t.collections := by
  simp [collections, labels_resolve, List.filterMap_map, collection?_resolve]

end DataType

namespace Scope

variable (s : Scope) (e : Entity) (f : Field) (place : String)

/-- The parametric types within a type that break their shape, each by where its error points. -/
theorem typeFindings_invalidDataType (t : DataType) :
    ((s.typeFindings e f place t).ofKind .invalidDataType).map Issue.place =
      (t.parametrics.filter fun p => decide (BreaksShape p.1 p.2)).map
        fun p => typePlace e f p.1 p.2 := by
  rw [(s.typeFindings_reports e f place t).ofKind_place]
  simp only [DataType.parametrics, DataType.labels, List.filterMap_eq_flatMap_toList,
    List.filter_flatMap, List.map_flatMap, List.flatMap_map]
  simp [nodeSummaries, List.filter_map, Function.comp_def]

/-- Each collection type within a type, by the rules its multiplicity breaks. -/
theorem typeFindings_invalidCardinality (t : DataType) :
    ((s.typeFindings e f place t).ofKind .invalidCardinality).map Issue.place =
      t.collections.flatMap fun c => List.replicate c.2.brokenRules (boundsPlace e f c.2) := by
  rw [(s.typeFindings_reports e f place t).ofKind_place]
  simp only [DataType.collections, DataType.labels, List.filterMap_eq_flatMap_toList,
    List.filter_flatMap, List.map_flatMap, List.flatMap_assoc, List.flatMap_map]
  simp [nodeSummaries, List.filter_map, Function.comp_def]

end Scope

namespace Document

/-- The errors of shape of a document: one bad-type error for each parametric type within a
field's type whose parameters break the shape its name asks for, and one bad-multiplicity error for
each rule broken by the multiplicity of each collection type within it. Both run over the entities
and fields in order and over the nodes of each type in pre-order, through array members and object
properties; each error names the entity, the field and the offending type or multiplicity. -/
theorem validate_shape_errors (d : Document) (r : Rules) :
    ((d.validate r).ofKind .invalidDataType).map Issue.place =
      (d.entities.flatMap fun e => e.fields.flatMap fun f =>
        (f.type.parametrics.filter fun p => decide (BreaksShape p.1 p.2)).map fun p =>
          (some e.name, some f.displayName, some (DataType.parametric p.1 p.2).render)) ∧
    ((d.validate r).ofKind .invalidCardinality).map Issue.place =
      (d.entities.flatMap fun e => e.fields.flatMap fun f =>
        f.type.collections.flatMap fun c =>
          List.replicate c.2.brokenRules (some e.name, some f.displayName, some c.2.render)) := by
  constructor
  · rw [validate_ofKind_typeCheck d r (.inl rfl)]
    simp only [Scope.typeCheckFindings, Scope.ofDocument, Findings.ofKind_concatMap,
      List.map_flatMap, Scope.typeFindings_invalidDataType, resolve_eq_mapFieldTypes,
      entities_mapFieldTypes]
    simp [List.flatMap_map, DataType.parametrics_resolve, Scope.typePlace, Field.displayName]
  · rw [validate_ofKind_typeCheck d r (.inr rfl)]
    simp only [Scope.typeCheckFindings, Scope.ofDocument, Findings.ofKind_concatMap,
      List.map_flatMap, Scope.typeFindings_invalidCardinality, resolve_eq_mapFieldTypes,
      entities_mapFieldTypes]
    simp [List.flatMap_map, DataType.collections_resolve, Scope.boundsPlace, Field.displayName]

end Document

end SchemaNotation
