import SchemaNotation.Proofs.MissingEntities
import SchemaNotation.Proofs.TypeSpelling

/-! Foreign keys and the relationships that cover them.

A relationship joins its two ends, either way round, and its junction entity with each of its
ends (`Relationship.Joins`). Validation advises on every field whose first `FK` constraint names
another entity of the document that no relationship joins to the field's own, and on none when the
document declares no relationships. Main statement: `Document.validate_unlinkedKeys`, the advice
among the warnings of validation is exactly `Document.unlinkedKeys`, in order. The advice has a
form no other warning has, so it is picked out by its text (`isUnlinkedKeyMessage`). A second
`FK` constraint of a field is reported as a duplicate and never drawn into this advice
(`Document.validate_second_key_unlinked`). -/

namespace SchemaNotation

namespace Relationship

/-- A relationship joins two entities: it runs between them either way, or one of them is its
junction entity and the other one of its ends. -/
def Joins (r : Relationship) (a b : String) : Prop :=
  (a = r.source ∧ b = r.target) ∨ (a = r.target ∧ b = r.source) ∨
    ∃ v ∈ r.via, v ≠ "" ∧
      (a = v ∧ (b = r.source ∨ b = r.target) ∨ b = v ∧ (a = r.source ∨ a = r.target))

instance (r : Relationship) (a b : String) : Decidable (r.Joins a b) := instDecidableOr

end Relationship

namespace Document

/-- Some relationship of the document joins two entities. -/
def Links (d : Document) (a b : String) : Prop := ∃ r ∈ d.relationshipList, r.Joins a b

instance (d : Document) (a b : String) : Decidable (d.Links a b) := List.decidableBEx _ _

end Document

namespace Document

/-- The advice on a field's foreign key: given when the key names another entity of the document
that no relationship joins to the field's own. -/
def unlinkedKey? (d : Document) (e : Entity) (f : Field) : Option String :=
  f.foreignKey?.bind fun k =>
    if k.2 ∈ d.entityNames ∧ k.2 ≠ e.name ∧ ¬d.Links e.name k.2 then
      some (unlinkedKeyMessage e f k.1)
    else none

/-- The advice on all the foreign keys of a document, entity by entity and field by field. -/
def unlinkedKeys (d : Document) : List String :=
  d.entities.flatMap fun e => e.fields.filterMap (d.unlinkedKey? e)

end Document

namespace Findings

variable {a b : Findings} {p : String → Bool}

theorem NoWarning.filter_append_left (ha : a.NoWarning p) (b : Findings) :
    (a ++ b).warnings.filter p = b.warnings.filter p := by
  rw [warnings_append, List.filter_append, ha.filter_eq_nil, List.nil_append]

theorem NoWarning.filter_append_right (hb : b.NoWarning p) (a : Findings) :
    (a ++ b).warnings.filter p = a.warnings.filter p := by
  rw [warnings_append, List.filter_append, hb.filter_eq_nil, List.append_nil]

end Findings

namespace Scope

theorem mem_linkedPairs {rs : List Relationship} {a b : String} :
    (a, b) ∈ linkedPairs rs ↔ ∃ r ∈ rs, r.Joins a b := by
  simp only [linkedPairs, List.mem_flatMap]
  refine exists_congr fun r => and_congr_right fun _ => ?_
  unfold Relationship.Joins
  cases hv : r.via with
  | none => simp
  | some v =>
    by_cases hempty : v = ""
    · simp [hempty]
    · simp [hempty]
      tauto

/-- The advice the key-link pass gives on a field of a document is the document's advice on it. -/
theorem keyAdvice_ofDocument (d : Document) (e : Entity) (f : Field) :
    (ofDocument d).keyAdvice (linkedPairs d.relationshipList) e f = d.unlinkedKey? e f := by
  unfold keyAdvice Document.unlinkedKey?
  cases f.foreignKey? with
  | none => rfl
  | some k =>
    obtain ⟨v, x⟩ := k
    have hlinked : (e.name, x) ∈ linkedPairs d.relationshipList ↔ d.Links e.name x :=
      mem_linkedPairs
    by_cases hk : x ∈ d.entityNames ∧ x ≠ e.name ∧ ¬d.Links e.name x
    · simp [Option.filter, hasEntity_ofDocument, hlinked, hk]
    · simp only [not_and_or, not_not] at hk
      rcases hk with hk | hk | hk <;> simp [Option.filter, hasEntity_ofDocument, hlinked, hk]

theorem keyLinksFindings_warnings (d : Document) :
    (ofDocument d).keyLinksFindings.warnings =
      if d.relationshipList = [] then [] else d.unlinkedKeys := by
  rw [keyLinksFindings_eq, document_ofDocument, Document.relationshipList_resolve]
  split
  · rfl
  · rw [Document.flatMap_fields_resolve, Document.unlinkedKeys]
    simp only [keyAdvice_ofDocument]
    congr 1
    funext e
    rw [List.filterMap_eq_flatMap_toList]
    rfl

theorem isUnlinkedKeyMessage_of_mem_unlinkedKeys {d : Document} {w : String}
    (hw : w ∈ d.unlinkedKeys) : isUnlinkedKeyMessage w = true := by
  simp only [Document.unlinkedKeys, List.mem_flatMap, List.mem_filterMap] at hw
  obtain ⟨e, -, f, -, hf⟩ := hw
  simp only [Document.unlinkedKey?, Option.bind_eq_some_iff] at hf
  obtain ⟨k, -, hk⟩ := hf
  split at hk
  · cases hk
    exact isUnlinkedKeyMessage_unlinkedKeyMessage e f k.1
  · cases hk

theorem crossReferenceFindings_unlinkedKeys (d : Document) :
    (ofDocument d).crossReferenceFindings.warnings.filter isUnlinkedKeyMessage =
      if d.relationshipList = [] then [] else d.unlinkedKeys := by
  obtain ⟨a, b, hs, ha, hb⟩ := (ofDocument d).crossReferenceFindings_split
  rw [hs, Findings.NoWarning.filter_append_right hb.noWarning,
    Findings.NoWarning.filter_append_left ha.noWarning, keyLinksFindings_warnings]
  split
  · rfl
  · exact List.filter_eq_self.mpr fun w hw => isUnlinkedKeyMessage_of_mem_unlinkedKeys hw

end Scope

namespace Document

/-- The advice of validation on foreign keys with no relationship behind them: for a document that
declares relationships, exactly `unlinkedKeys`, in order; for one that declares none, nothing. -/
theorem validate_unlinkedKeys (d : Document) (r : Rules) :
    (d.validate r).warnings.filter isUnlinkedKeyMessage =
      if d.relationshipList = [] then [] else d.unlinkedKeys := by
  unfold validate
  rw [Findings.NoWarning.filter_append_left]
  · exact Scope.crossReferenceFindings_unlinkedKeys d
  · simp only [Findings.noWarning_append]
    exact ⟨⟨⟨⟨⟨(Scope.headerFindings_reports _).noWarning,
      (Scope.relationshipFindings_reports _).noWarning⟩, Scope.structureFindings_noUnlinkedKey _⟩,
      (Scope.typeCheckFindings_reports _).noWarning⟩,
      (Scope.constraintCheckFindings_reports _).noWarning⟩,
      (Scope.complexityFindings_reports _ r).noWarning⟩

theorem exists_ok_of_decide {ε α : Type} {x : Except ε α} {P : α → Prop} [DecidablePred P]
    (h : x.toOption.any (fun a => decide (P a)) = true) : ∃ a, x = .ok a ∧ P a := by
  obtain ⟨a, hx, ha⟩ := Notation.exists_ok_of_any h
  exact ⟨a, hx, of_decide_eq_true ha⟩

/-- Only the first `FK` constraint of a field is read: a second key, to an entity of the document
that no relationship joins to the field's own, draws no advice. -/
theorem validate_second_key_unlinked :
    ∃ d, read ("=== RELATIONSHIP DEFINITIONS ===\nA -> B [1:M]\n=== DATABASE SCHEMA ===\n" ++
        "=== M ===\nA\n==========\n* id : JSON [PK]\n* k : JSON [FK:B.id,FK:C.id]\n\n" ++
        "B\n==========\n* id : JSON [PK]\n\nC\n==========\n* id : JSON [PK]\n") = .ok d ∧
      (∃ e ∈ d.entities, ∃ f ∈ e.fields, e.name = "A" ∧ f.name = "k" ∧
        ∃ c ∈ f.constraints, c.name = "FK" ∧ c.value = some "C.id") ∧
      "C" ∈ d.entityNames ∧ ¬d.Links "A" "C" ∧
      "Foreign key A.k -> C.id has no matching relationship definition" ∉
        (d.validate {}).warnings :=
  exists_ok_of_decide (by decide +kernel)

end Document

end SchemaNotation
