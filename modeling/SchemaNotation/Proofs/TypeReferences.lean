import SchemaNotation.Schema.Resolve

/-! The entities a field's type refers to, and what resolving embedded names does to a document.

A type refers to entities in two ways: a collection `Entity[min..max]` names the entity of its
members, and, once names are resolved, a reference stands for an embedded entity. Both are
reached through array members and the properties of objects, outer before inner. Resolution
changes bare names only: it keeps every collection in place (`collectionEntities_resolve`), and
each reference it makes is to a name it was given (`embeddedEntities_resolve`). A resolved
document is the document with its field types resolved against its own embedded entities, all
else the same (`entities_resolve`). -/

namespace SchemaNotation

namespace DataType

mutual
/-- The entities of the collection types within a type, outer before inner: through array members
and the properties of objects in order. -/
def collectionEntities : DataType → List String
  | .collection entity _ => [entity]
  | .array inner => inner.collectionEntities
  | .json props => propertyCollectionEntities props
  | _ => []

/-- The entities of the collection types within the types of properties, in order. -/
def propertyCollectionEntities : List (String × DataType) → List String
  | [] => []
  | (_, type) :: rest => type.collectionEntities ++ propertyCollectionEntities rest
end

mutual
/-- The embedded entities a type refers to, through array members and object properties. -/
def embeddedEntities : DataType → List String
  | .embedded entity => [entity]
  | .array inner => inner.embeddedEntities
  | .json props => propertyEmbeddedEntities props
  | _ => []

/-- The embedded entities the types of properties refer to. -/
def propertyEmbeddedEntities : List (String × DataType) → List String
  | [] => []
  | (_, type) :: rest => type.embeddedEntities ++ propertyEmbeddedEntities rest
end

theorem propertyCollectionEntities_eq_flatMap (props : List (String × DataType)) :
    propertyCollectionEntities props = props.flatMap (·.2.collectionEntities) := by
  induction props with
  | nil => rfl
  | cons p props ih => simp [propertyCollectionEntities, ih]

theorem propertyEmbeddedEntities_eq_flatMap (props : List (String × DataType)) :
    propertyEmbeddedEntities props = props.flatMap (·.2.embeddedEntities) := by
  induction props with
  | nil => rfl
  | cons p props ih => simp [propertyEmbeddedEntities, ih]

variable (names : List String)

mutual
theorem collectionEntities_resolve :
    ∀ t : DataType, (t.resolve names).collectionEntities = t.collectionEntities
  | .simple n => by
    simp only [resolve]
    split <;> rfl
  | .parametric _ _ | .collection _ _ | .embedded _ => by simp [resolve]
  | .array inner => by simp [resolve, collectionEntities, collectionEntities_resolve inner]
  | .json props => by
    simp [resolve, collectionEntities, propertyCollectionEntities_resolve props]

theorem propertyCollectionEntities_resolve : ∀ props : List (String × DataType),
    propertyCollectionEntities (resolveProperties names props) = propertyCollectionEntities props
  | [] => by simp [resolveProperties]
  | (_, t) :: rest => by
    simp [resolveProperties, propertyCollectionEntities, collectionEntities_resolve t,
      propertyCollectionEntities_resolve rest]
end

mutual
/-- Each reference in a resolved type is to a name resolution was given, or was there before. -/
theorem embeddedEntities_resolve : ∀ t : DataType, ∀ n ∈ (t.resolve names).embeddedEntities,
    n ∈ names ∨ n ∈ t.embeddedEntities
  | .simple m, n, hn => by
    simp only [resolve] at hn
    split at hn
    · rename_i hm
      simp only [embeddedEntities, List.mem_singleton] at hn
      subst hn
      exact .inl (List.elem_iff.mp hm)
    · simp [embeddedEntities] at hn
  | .parametric _ _, n, hn | .collection _ _, n, hn | .embedded _, n, hn => by
    simp only [resolve] at hn
    exact .inr hn
  | .array inner, n, hn => by
    simp only [resolve, embeddedEntities] at hn ⊢
    exact embeddedEntities_resolve inner n hn
  | .json props, n, hn => by
    simp only [resolve, embeddedEntities] at hn ⊢
    exact propertyEmbeddedEntities_resolve props n hn

theorem propertyEmbeddedEntities_resolve : ∀ props : List (String × DataType),
    ∀ n ∈ propertyEmbeddedEntities (resolveProperties names props),
      n ∈ names ∨ n ∈ propertyEmbeddedEntities props
  | [], n, hn => by simp [resolveProperties, propertyEmbeddedEntities] at hn
  | (_, t) :: rest, n, hn => by
    simp only [resolveProperties, propertyEmbeddedEntities, List.mem_append] at hn ⊢
    rcases hn with hn | hn
    · exact (embeddedEntities_resolve t n hn).imp_right .inl
    · exact (propertyEmbeddedEntities_resolve rest n hn).imp_right .inr
end

mutual
theorem resolve_nil : ∀ t : DataType, t.resolve [] = t
  | .simple _ => by simp [resolve]
  | .parametric _ _ | .collection _ _ | .embedded _ => by simp [resolve]
  | .array inner => by simp [resolve, resolve_nil inner]
  | .json props => by simp [resolve, resolveProperties_nil props]

theorem resolveProperties_nil :
    ∀ props : List (String × DataType), resolveProperties [] props = props
  | [] => by simp [resolveProperties]
  | (_, t) :: rest => by simp [resolveProperties, resolve_nil t, resolveProperties_nil rest]
end

end DataType

namespace Document

/-- An entity with the types of its fields resolved against the given embedded names. -/
def resolveEntity (embedded : List String) (e : Entity) : Entity :=
  { e with fields := e.fields.map fun f => { f with type := f.type.resolve embedded } }

@[simp] theorem name_resolveEntity (embedded : List String) (e : Entity) :
    (resolveEntity embedded e).name = e.name := rfl

@[simp] theorem fields_resolveEntity (embedded : List String) (e : Entity) :
    (resolveEntity embedded e).fields =
      e.fields.map fun f => { f with type := f.type.resolve embedded } := rfl

theorem resolveEntity_nil : resolveEntity [] = id := by
  funext e
  simp [resolveEntity, DataType.resolve_nil]

variable (d : Document)

/-- Resolving a document resolves the types of its entities' fields, and changes nothing else. -/
theorem entities_resolve : d.resolve.entities = d.entities.map (resolveEntity d.embeddedNames) := by
  by_cases hempty : d.embeddedNames.isEmpty
  · have hnil : d.embeddedNames = [] := List.isEmpty_iff.mp hempty
    simp [resolve, hnil, resolveEntity_nil]
  · simp only [resolve, hempty, Bool.false_eq_true, ↓reduceIte, entities, List.map_flatMap,
      List.flatMap_map]
    rfl

theorem flatMap_fields_resolve {β : Type} (g : Entity → Field → List β) :
    (d.resolve.entities.flatMap fun e => e.fields.flatMap (g e)) =
      d.entities.flatMap fun e => e.fields.flatMap fun f =>
        g (resolveEntity d.embeddedNames e) { f with type := f.type.resolve d.embeddedNames } := by
  simp [entities_resolve, List.flatMap_map]

@[simp] theorem relationships_resolve : d.resolve.relationships = d.relationships := by
  by_cases hempty : d.embeddedNames.isEmpty <;> simp [resolve, hempty]

@[simp] theorem relationshipList_resolve : d.resolve.relationshipList = d.relationshipList := by
  simp [relationshipList]

theorem entityNames_resolve :
    d.resolve.entities.map Entity.name = d.entities.map Entity.name := by
  simp [entities_resolve]

end Document

end SchemaNotation
