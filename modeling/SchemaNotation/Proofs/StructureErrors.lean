import Mathlib
import SchemaNotation.Proofs.PassReports

/-! The errors of the structure pass: duplicate names, conflicting sigils, missing keys.

A name is a duplicate at each position of a list where it equals a name before it
(`repeats`). The structure pass reports a duplicate entity at each such position of the entity
names of the whole document, across its sections, and a duplicate field at each such position of
an entity's field names, every name of every field in order, synonyms included. The pass checks
each name against the names met before it, held in three scopes (the entities before, the fields
before, the names of the same field before); `withEarlier_flatMap_repeats` says that such a pass
finds the repeated positions of the whole list. It also reports each field that is both required
and optional, and each entity none of whose constraints is named `PK` in any case.
`Document.validate_structure_errors` states all four for the errors of validation. -/

namespace SchemaNotation

open scoped List

/-- The items of `l` equal to an item before them, one for each such position, in order; the
items of `pre` count as coming before all of `l`. -/
def repeatsAfter (pre l : List String) : List String :=
  (l.zipIdx.filter fun p => p.1 ∈ pre ++ l.take p.2).map Prod.fst

/-- The items of a list equal to an item before them, one for each such position, in order. -/
def repeats (l : List String) : List String :=
  (l.zipIdx.filter fun p => p.1 ∈ l.take p.2).map Prod.fst

theorem repeats_eq_repeatsAfter (l : List String) : repeats l = repeatsAfter [] l := by
  simp [repeats, repeatsAfter]

theorem repeatsAfter_append (pre l l' : List String) :
    repeatsAfter pre (l ++ l') = repeatsAfter pre l ++ repeatsAfter (pre ++ l) l' := by
  unfold repeatsAfter
  rw [List.zipIdx_append, List.filter_append, List.map_append, Nat.zero_add]
  congr 1
  · congr 1
    refine List.filter_congr fun p hp => ?_
    have hlt : p.2 < l.length := by
      have := List.mem_zipIdx hp
      omega
    rw [List.take_append_of_le_length hlt.le]
  · rw [List.zipIdx_eq_map_add, List.filter_map, List.map_map]
    congr 1
    refine List.filter_congr fun p _ => ?_
    simp [List.take_append, List.append_assoc, List.take_of_length_le]

theorem repeatsAfter_singleton (pre : List String) (x : String) :
    repeatsAfter pre [x] = if x ∈ pre then [x] else [] := by
  by_cases h : x ∈ pre <;> simp [repeatsAfter, h]

/-- A pass that reports each name of each item that equals a name before it, looking back over
the names of the items before and `pre`, reports the repeated positions of all the names. -/
theorem withEarlier_flatMap_repeats {α : Type} {k : IssueKind} (names : α → List String)
    (g : String → Option String × Option String × Option String) {f : List α → α → Findings}
    (pre : List String) (xs : List α)
    (h : ∀ before x, ((f before x).ofKind k).map Issue.place =
      (repeatsAfter (pre ++ before.flatMap names) (names x)).map g) :
    ((Findings.withEarlier xs f).ofKind k).map Issue.place =
      (repeatsAfter pre (xs.flatMap names)).map g := by
  induction xs generalizing f pre with
  | nil => rfl
  | cons x xs ih =>
    have htail : ∀ before y, ((f (x :: before) y).ofKind k).map Issue.place =
        (repeatsAfter ((pre ++ names x) ++ before.flatMap names) (names y)).map g := by
      intro before y
      rw [h, List.flatMap_cons, List.append_assoc]
    rw [Findings.withEarlier_cons, Findings.ofKind_append, List.map_append, h, ih _ htail,
      List.flatMap_cons, repeatsAfter_append, List.map_append, List.flatMap_nil, List.append_nil]

namespace Field

theorem isKey_iff (f : Field) : f.isKey = true ↔ ∃ c ∈ f.constraints, Text.upper c.name = "PK" := by
  have hpk : Text.upper "PK" = "PK" := by decide +kernel
  simp [isKey, hasConstraint, constraint?, List.find?_isSome, Constraint.key, hpk]

end Field

namespace Scope

variable (e : Entity)

theorem entityStructure_ofKind (k : IssueKind) (earlier : List String) :
    (entityStructure earlier e).ofKind k = (nameStructure e earlier).ofKind k ++
      (Findings.withEarlier e.fields (fieldStructure e)).ofKind k ++ (keyStructure e).ofKind k := by
  rw [entityStructure_eq, Findings.ofKind_append, Findings.ofKind_append]

theorem entityStructure_ofKind_fields {k : IssueKind}
    (hk : k = .duplicateFieldName ∨ k = .invalidFieldPrefix) (earlier : List String) :
    (entityStructure earlier e).ofKind k =
      (Findings.withEarlier e.fields (fieldStructure e)).ofKind k := by
  have hname : (nameStructure e earlier).ofKind k = [] :=
    (nameStructure_reports e earlier).ofKind_eq_nil (by rcases hk with rfl | rfl <;> split <;> simp)
  have hkey : (keyStructure e).ofKind k = [] :=
    (keyStructure_reports e).ofKind_eq_nil (by rcases hk with rfl | rfl <;> split <;> simp)
  rw [entityStructure_ofKind, hname, hkey, List.nil_append, List.append_nil]

theorem fieldsStructure_ofKind {k : IssueKind}
    (hk : k = .duplicateEntityName ∨ k = .missingPrimaryKey) :
    (Findings.withEarlier e.fields (fieldStructure e)).ofKind k = [] :=
  Findings.ofKind_eq_nil_of_kindsIn (Findings.kindsIn_withEarlier (fieldStructure_kinds e))
    (by rcases hk with rfl | rfl <;> simp)

theorem entityStructure_duplicateEntity (earlier : List String) :
    ((entityStructure earlier e).ofKind .duplicateEntityName).map Issue.place =
      if e.name ∈ earlier then [(some e.name, none, none)] else [] := by
  rw [entityStructure_ofKind, fieldsStructure_ofKind e (.inl rfl), (keyStructure_reports e).ofKind_eq_nil (by split <;> simp),
    List.append_nil, List.append_nil, (nameStructure_reports e earlier).ofKind_place]
  by_cases h : e.name ∈ earlier <;> simp [h]

theorem entityStructure_duplicateField (earlier : List String) :
    ((entityStructure earlier e).ofKind .duplicateFieldName).map Issue.place =
      (repeats e.fieldNames).map fun n => (some e.name, some n, none) := by
  rw [entityStructure_ofKind_fields e (.inl rfl), withEarlier_flatMap_repeats Field.names
    (fun n => (some e.name, some n, none)) [] e.fields fun before f => ?_]
  · rw [repeats_eq_repeatsAfter]
    rfl
  rw [fieldStructure, Findings.ofKind_append,
    (sigilFindings_reports e f).ofKind_eq_nil (by split <;> simp), List.append_nil,
    withEarlier_flatMap_repeats (fun n => [n]) (fun n => (some e.name, some n, none))
      (before.flatMap Field.names) f.names fun same n => ?_]
  · simp
  rw [(nameCheck_reports e before same n).ofKind_place]
  by_cases h : n ∈ before.flatMap Field.names ++ same <;> simp [h, repeatsAfter_singleton]

theorem flatMap_ite_singleton {α β : Type} (l : List α) (p : α → Prop) [DecidablePred p]
    (g : α → β) : l.flatMap (fun x => if p x then [g x] else []) = (l.filter p).map g := by
  induction l with
  | nil => rfl
  | cons x l ih => by_cases h : p x <;> simp [h, ih]

/-- The fields that are both required and optional. -/
def conflictingSigils (fs : List Field) : List Field :=
  fs.filter fun f => Sigil.required ∈ f.sigils ∧ Sigil.optional ∈ f.sigils

theorem entityStructure_invalidFieldPrefix (earlier : List String) :
    ((entityStructure earlier e).ofKind .invalidFieldPrefix).map Issue.place =
      (conflictingSigils e.fields).map fun f =>
        (some e.name, some f.displayName, some (String.ofList (f.sigils.map Sigil.symbol))) := by
  have hfield : ∀ (before : List Field) (f : Field),
      (fieldStructure e before f).ofKind .invalidFieldPrefix =
        (sigilFindings e f).ofKind .invalidFieldPrefix := by
    intro before f
    rw [fieldStructure, Findings.ofKind_append, Findings.ofKind_withEarlier_eq_nil _ fun same n =>
      (nameCheck_reports e before same n).ofKind_eq_nil (by split <;> simp), List.nil_append]
  rw [entityStructure_ofKind_fields e (.inr rfl), Findings.ofKind_withEarlier e.fields hfield,
    List.map_flatMap]
  simp only [(sigilFindings_reports e _).ofKind_place]
  rw [conflictingSigils, ← flatMap_ite_singleton]
  congr 1
  funext f
  split <;> simp

theorem keyFields_isEmpty_iff :
    e.keyFields.isEmpty = true ↔ ∀ f ∈ e.fields, ∀ c ∈ f.constraints, Text.upper c.name ≠ "PK" := by
  simp [Entity.keyFields, List.filter_eq_nil_iff, Field.isKey_iff]

theorem entityStructure_missingPrimaryKey (earlier : List String) :
    ((entityStructure earlier e).ofKind .missingPrimaryKey).map Issue.place =
      if ∀ f ∈ e.fields, ∀ c ∈ f.constraints, Text.upper c.name ≠ "PK" then
        [(some e.name, none, none)]
      else [] := by
  rw [entityStructure_ofKind, (nameStructure_reports e earlier).ofKind_eq_nil (by split <;> simp),
    fieldsStructure_ofKind e (.inr rfl), List.nil_append, List.nil_append,
    (keyStructure_reports e).ofKind_place, if_congr (keyFields_isEmpty_iff e) rfl rfl]
  split <;> simp

theorem entityStructure_ofKind_earlier {k : IssueKind} (hk : k ≠ .duplicateEntityName)
    (earlier : List String) :
    (entityStructure earlier e).ofKind k = (entityStructure [] e).ofKind k := by
  have hname : ∀ earlier, (nameStructure e earlier).ofKind k = [] := fun earlier =>
    (nameStructure_reports e earlier).ofKind_eq_nil (by split <;> simp [Ne.symm hk])
  rw [entityStructure_ofKind, entityStructure_ofKind, hname, hname]

end Scope

namespace Document

variable (d : Document) (r : Rules)

theorem entities_ofDocument : (Scope.ofDocument d).document.entities =
    d.entities.map (Entity.mapFieldTypes (DataType.resolve d.embeddedNames)) := by
  simp only [Scope.ofDocument]
  rw [resolve_eq_mapFieldTypes, entities_mapFieldTypes]

/-- Past duplicate entity names, the structure errors of validation are each entity's own,
entity by entity. -/
theorem validate_ofKind_entity {k : IssueKind}
    (hk : k ∈ [IssueKind.duplicateFieldName, .invalidFieldPrefix, .missingPrimaryKey]) :
    (d.validate r).ofKind k = d.entities.flatMap fun e =>
      (Scope.entityStructure [] (e.mapFieldTypes (DataType.resolve d.embeddedNames))).ofKind k := by
  simp only [List.mem_cons, List.not_mem_nil, or_false] at hk
  have hne : k ≠ .duplicateEntityName := by rcases hk with rfl | rfl | rfl <;> decide
  rw [validate_ofKind_structure d r (by rcases hk with rfl | rfl | rfl <;> simp),
    Scope.structureFindings, entities_ofDocument, Findings.ofKind_withEarlier _ fun before e =>
      Scope.entityStructure_ofKind_earlier e hne (before.map Entity.name), List.flatMap_map]

/-- The structure errors of a document, of each kind in the order found: a duplicate entity name at
each position of the entity names, across the sections, where the name occurred before; a
duplicate field name at each position of an entity's field names, synonyms included, where the
name occurred before in that entity; a conflict for each field both required and optional; and a
missing key for each entity none of whose constraints is named `PK` in any case. Each error names
its entity, and its field or the sigils where it has one; the structure pass reports nothing else. -/
theorem validate_structure_errors :
    ((d.validate r).ofKind .duplicateEntityName).map Issue.place =
      (repeats (d.entities.map Entity.name)).map (fun n => (some n, none, none)) ∧
    ((d.validate r).ofKind .duplicateFieldName).map Issue.place =
      d.entities.flatMap (fun e => (repeats e.fieldNames).map fun n => (some e.name, some n, none)) ∧
    ((d.validate r).ofKind .invalidFieldPrefix).map Issue.place =
      d.entities.flatMap (fun e =>
        (e.fields.filter fun f => Sigil.required ∈ f.sigils ∧ Sigil.optional ∈ f.sigils).map fun f =>
          (some e.name, some f.displayName, some (String.ofList (f.sigils.map Sigil.symbol)))) ∧
    ((d.validate r).ofKind .missingPrimaryKey).map Issue.place =
      (d.entities.filter fun e => ∀ f ∈ e.fields, ∀ c ∈ f.constraints, Text.upper c.name ≠ "PK").map
        (fun e => (some e.name, none, none)) ∧
    (Scope.ofDocument d).structureFindings.KindsIn
      [.duplicateEntityName, .duplicateFieldName, .invalidFieldPrefix, .missingPrimaryKey] := by
  refine ⟨?_, ?_, ?_, ?_, Scope.structureFindings_kinds _⟩
  · rw [validate_ofKind_structure d r (by simp), Scope.structureFindings, entities_ofDocument,
      withEarlier_flatMap_repeats (fun e => [e.name]) (fun n => (some n, none, none)) [] _
        fun before e => ?_]
    · rw [← List.map_eq_flatMap, repeats_eq_repeatsAfter]
      simp only [List.map_map]
      rfl
    · rw [Scope.entityStructure_duplicateEntity, repeatsAfter_singleton, List.nil_append,
        ← List.map_eq_flatMap]
      by_cases h : e.name ∈ before.map Entity.name
      · rw [if_pos h, if_pos h]
        rfl
      · rw [if_neg h, if_neg h]
        rfl
  · rw [validate_ofKind_entity d r (by simp)]
    simp [List.map_flatMap, Scope.entityStructure_duplicateField]
  · rw [validate_ofKind_entity d r (by simp)]
    simp [List.map_flatMap, Scope.entityStructure_invalidFieldPrefix,
      Scope.conflictingSigils, List.filter_map, Function.comp_def, Field.displayName]
  · rw [validate_ofKind_entity d r (by simp)]
    simp only [List.map_flatMap, Scope.entityStructure_missingPrimaryKey]
    rw [← Scope.flatMap_ite_singleton]
    simp

end Document

end SchemaNotation
