import SchemaNotation.Proofs.PassReports
import SchemaNotation.Proofs.ReadFields

/-! References to entities that do not exist.

Validation reports a missing entity in three passes, each in document order: for each declared
relationship, every distinct entity it names (source, target, junction) that no entity bears;
for each field, every collection type within its type (reached through array members and object
properties, outer before inner) whose entity is unknown; and for each foreign key `FK:Entity.field`,
its entity when unknown. Each is read off what the pass reports (`Scope.relationshipFindings_reports`
and the like); the other passes report no such error. `Document.validate_missing_entities` says
these are exactly the missing-entity errors of a read document, in this order, each with the
missing name as its target. The statement holds of any document whose references to embedded
entities name entities (`Document.validate_missing_of_embeddedKnown`): such references come from
resolution only, and a read document has none of its own. -/

namespace SchemaNotation

open Notation

/-- The entity of a foreign key: of a constraint named `FK` in any case whose value, trimmed, is
an entity and a field joined by a dot. -/
def Constraint.foreignEntity? (c : Constraint) : Option String :=
  if c.key = "FK" then (c.value.bind fun v => qualifiedName? (Text.trim v)).map Prod.fst
  else none

namespace Document

/-- The names of the entities of a document. -/
def entityNames (d : Document) : List String := d.entities.map Entity.name

/-- Every reference to an embedded entity in a field's type names an entity of the document. -/
def EmbeddedKnown (d : Document) : Prop :=
  ∀ e ∈ d.entities, ∀ f ∈ e.fields, ∀ n ∈ f.type.embeddedEntities, n ∈ d.entityNames

/-- The references of a document to entities it does not have, in the order validation meets
them: the distinct names of each relationship, the collections within each field's type, and the
foreign keys of each field. -/
def missingReferences (d : Document) : List String :=
  let unknown (names : List String) := names.filter (!d.entityNames.contains ·)
  (d.relationshipList.flatMap fun r => (unknown r.namedEntities).eraseDups) ++
  (d.entities.flatMap fun e => e.fields.flatMap fun f => unknown f.type.collectionEntities) ++
  (d.entities.flatMap fun e => e.fields.flatMap fun f =>
    unknown (f.constraints.filterMap Constraint.foreignEntity?))

theorem embeddedKnown_of_read {text : String} {d : Document} (h : read text = .ok d) :
    d.EmbeddedKnown := by
  intro e he f hf n hn
  rw [embeddedEntities_of_read h e he f hf] at hn
  nomatch hn

end Document

namespace Scope

variable (d : Document)

@[simp] theorem document_ofDocument : (ofDocument d).document = d.resolve := rfl

theorem hasEntity_ofDocument (n : String) :
    (ofDocument d).hasEntity n = d.entityNames.contains n := by
  simp [hasEntity, ofDocument, Document.entityNames_resolve, Document.entityNames]

theorem entity?_ofDocument_eq_none (n : String) :
    (ofDocument d).entity? n = none ↔ n ∉ d.entityNames := by
  rw [Document.entityNames, ← Document.entityNames_resolve]
  simp [entity?, ofDocument, Document.findEntity?, List.find?_eq_none]

end Scope

namespace DataType

mutual
theorem filter_entities_nodes (P : String → Bool) : ∀ t : DataType,
    (∀ n ∈ t.embeddedEntities, P n = false) →
      (t.nodes.filterMap fun u => u.node.entity?).filter P = t.collectionEntities.filter P
  | .simple _, _ => rfl
  | .parametric _ _, _ => rfl
  | .array inner, h => by
    simpa [nodes, node, TypeNode.entity?, collectionEntities] using filter_entities_nodes P inner h
  | .json props, h => by
    simpa [nodes, node, TypeNode.entity?, collectionEntities] using
      filter_entities_propertyNodes P props h
  | .collection entity m, _ => by simp [nodes, node, TypeNode.entity?, collectionEntities]
  | .embedded entity, h => by
    simp [nodes, node, TypeNode.entity?, collectionEntities, h entity (by simp [embeddedEntities])]

theorem filter_entities_propertyNodes (P : String → Bool) : ∀ props : List (String × DataType),
    (∀ n ∈ propertyEmbeddedEntities props, P n = false) →
      ((propertyNodes props).filterMap fun u => u.node.entity?).filter P =
        (propertyCollectionEntities props).filter P
  | [], _ => rfl
  | (_, t) :: rest, h => by
    have ht := filter_entities_nodes P t fun n hn => h n (by simp [propertyEmbeddedEntities, hn])
    have hrest := filter_entities_propertyNodes P rest fun n hn =>
      h n (by simp [propertyEmbeddedEntities, hn])
    simp [propertyNodes, propertyCollectionEntities, List.filterMap_append, List.filter_append, ht,
      hrest]
end

end DataType

namespace Scope

variable (s : Scope) (d : Document)

theorem typeFindings_missing (e : Entity) (f : Field) (place : String) (t : DataType)
    (h : ∀ n ∈ t.embeddedEntities, s.hasEntity n = true) :
    ((s.typeFindings e f place t).ofKind .missingRequiredEntity).map Issue.target =
      (t.collectionEntities.filter (!s.hasEntity ·)).map some := by
  rw [(s.typeFindings_reports e f place t).ofKind_target,
    ← DataType.filter_entities_nodes _ t fun n hn => by simp [h n hn]]
  simp only [List.filterMap_eq_flatMap_toList, List.filter_flatMap, List.map_flatMap]
  simp [nodeSummaries, List.filter_map, Function.comp_def]

theorem constraintSummaries_missing (e : Entity) (f : Field) (c : Constraint) :
    ((s.constraintSummaries e f c).filter (·.1 = .missingRequiredEntity)).map (·.2.2.2) =
      (c.foreignEntity?.toList.filter fun n => (s.entity? n).isNone).map some := by
  by_cases hfk : c.key = "FK"
  · simp only [constraintSummaries, keySummaries, Constraint.foreignEntity?, hfk, if_true]
    split_ifs <;> simp [List.filter_append, List.filter_map, List.map_map, Function.comp_def]
  · simp only [constraintSummaries, Constraint.foreignEntity?, hfk, if_false, List.nil_append]
    split_ifs <;> simp

theorem isNone_entity?_ofDocument (n : String) :
    ((ofDocument d).entity? n).isNone = !d.entityNames.contains n := by
  rw [Bool.eq_iff_iff, Option.isNone_iff_eq_none, entity?_ofDocument_eq_none]
  simp

theorem relationshipFindings_missing :
    ((ofDocument d).relationshipFindings.ofKind .missingRequiredEntity).map Issue.target =
      (d.relationshipList.flatMap fun r =>
        (r.namedEntities.filter (!d.entityNames.contains ·)).eraseDups).map some := by
  obtain ⟨cs, _, hcs, -⟩ := Inheritance.cycles_inv (ofDocument d).document.relationshipList
  rw [(relationshipFindings_reports _).ofKind_target, hcs]
  simp [List.filter_append, List.filter_flatMap, List.filter_map, List.map_flatMap,
    Function.comp_def, Inheritance.report, Issue.summary, hasEntity_ofDocument]

theorem typeCheckFindings_missing (hd : d.EmbeddedKnown) :
    ((ofDocument d).typeCheckFindings.ofKind .missingRequiredEntity).map Issue.target =
      (d.entities.flatMap fun e => e.fields.flatMap fun f =>
        f.type.collectionEntities.filter (!d.entityNames.contains ·)).map some := by
  have hembedded : ∀ n ∈ d.embeddedNames, n ∈ d.entityNames := by
    intro n hn
    simp only [Document.embeddedNames, List.mem_map, List.mem_filter] at hn
    obtain ⟨e, ⟨he, -⟩, rfl⟩ := hn
    exact List.mem_map_of_mem he
  simp only [typeCheckFindings, Findings.ofKind_concatMap, List.map_flatMap]
  rw [document_ofDocument, Document.flatMap_fields_resolve]
  refine List.flatMap_congr fun e he => List.flatMap_congr fun f hf => ?_
  rw [typeFindings_missing _ _ _ _ _ fun n hn => ?_, DataType.collectionEntities_resolve]
  · simp [hasEntity_ofDocument]
  · rw [hasEntity_ofDocument, List.contains_iff_mem]
    rcases DataType.embeddedEntities_resolve _ _ n hn with h | h
    · exact hembedded n h
    · exact hd e he f hf n h

theorem constraintCheckFindings_missing :
    ((ofDocument d).constraintCheckFindings.ofKind .missingRequiredEntity).map Issue.target =
      (d.entities.flatMap fun e => e.fields.flatMap fun f =>
        (f.constraints.filterMap Constraint.foreignEntity?).filter (!d.entityNames.contains ·)).map
          some := by
  rw [(constraintCheckFindings_reports _).ofKind_target, document_ofDocument,
    Document.flatMap_fields_resolve]
  simp [List.filter_flatMap, List.map_flatMap, constraintSummaries_missing,
    isNone_entity?_ofDocument, List.filterMap_eq_flatMap_toList]

end Scope

namespace Document

/-- The missing-entity errors of any document whose references to embedded entities name
entities: its missing references, in order. -/
theorem validate_missing_of_embeddedKnown (d : Document) (r : Rules) (hd : d.EmbeddedKnown) :
    ((d.validate r).ofKind .missingRequiredEntity).map Issue.target =
      d.missingReferences.map some := by
  have hstructure : IssueKind.missingRequiredEntity ∉
      [IssueKind.duplicateEntityName, .duplicateFieldName, .invalidFieldPrefix,
        .missingPrimaryKey] := by
    simp
  simp only [validate_ofKind, List.map_append,
    Findings.ofKind_eq_nil_of_kindsIn (Scope.structureFindings_kinds _) hstructure,
    Scope.relationshipFindings_missing, Scope.typeCheckFindings_missing d hd,
    Scope.constraintCheckFindings_missing, List.append_nil]
  simp [missingReferences]

/-- The missing-entity errors of a read document are its missing references, in the order of
the passes: for each relationship its distinct unknown entities, then each unknown collection
within a field's type, then the unknown entity of each foreign key. -/
theorem validate_missing_entities {text : String} {d : Document} (h : read text = .ok d)
    (r : Rules) :
    ((d.validate r).ofKind .missingRequiredEntity).map Issue.target =
      d.missingReferences.map some :=
  validate_missing_of_embeddedKnown d r (embeddedKnown_of_read h)

/-- A shop whose one entity takes part in a relationship with an entity it lacks, and in another
through a junction it lacks. -/
def shopWithoutUsers : String :=
  "=== RELATIONSHIP DEFINITIONS ===\nOrder -> User [1:M]\nOrder -> Order [1:1] via Link\n" ++
    "=== DATABASE SCHEMA ===\n+ Shop\n=== Shop ===\nOrder\n==========\n"

theorem validate_missing_entities_shop :
    ∃ d, read shopWithoutUsers = .ok d ∧
      ((d.validate {}).ofKind .missingRequiredEntity).map Issue.target =
        [some "User", some "Link"] := by
  have hcheck : (match read shopWithoutUsers with
      | .ok d => d.missingReferences == ["User", "Link"]
      | .error _ => false) = true := by
    decide +kernel
  cases hr : read shopWithoutUsers with
  | error e =>
    rw [hr] at hcheck
    cases hcheck
  | ok d =>
    rw [hr] at hcheck
    refine ⟨d, rfl, ?_⟩
    rw [validate_missing_entities hr {}, eq_of_beq hcheck]
    rfl

end Document

end SchemaNotation
