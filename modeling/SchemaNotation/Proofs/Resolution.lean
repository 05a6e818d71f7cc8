import SchemaNotation.Proofs.TypeReferences
import SchemaNotation.Render.Statistics
import SchemaNotation.Check.Report

/-! The nodes of a type, and what resolving embedded names does to a document.

A type is a tree: an array holds its member type, an object the types of its properties. Its
nodes in pre-order (`DataType.nodes`), each by what it holds of its own (`DataType.node`), are
its `labels`. Resolving against a list of names turns each bare name in the list into a
reference to that entity and leaves every other node as it is (`DataType.labels_resolve`): the
parameters of a parametric type and the entity of a collection are names, not types, and are
never touched. A resolved type holds no bare name from the list (`DataType.settled_resolve`), and
such a type resolves to itself (`DataType.resolve_of_settled`), so resolving twice is resolving
once. A document changes only in the types of its fields (`Document.resolve_eq_mapFieldTypes`),
and nothing that reads types tells a bare name from a reference: the notation of each field's
type, the statistics and validation are the same for a document and its resolved form. -/

namespace SchemaNotation

/-- What a node of a type holds of its own, without the types within it. -/
inductive TypeNode where
  | simple (name : String)
  | parametric (name : String) (params : List String)
  | array
  | json (names : List String)
  | collection (entity : String) (bounds : Multiplicity)
  | embedded (entity : String)
deriving DecidableEq, Repr

/-- A node as resolution against `embedded` leaves it: a bare name of an embedded entity becomes a
reference to it, and every other node stays as it is. -/
def TypeNode.resolve (embedded : List String) : TypeNode → TypeNode
  | .simple name => if name ∈ embedded then .embedded name else .simple name
  | n => n

namespace DataType

/-- What the root of a type holds of its own. -/
def node : DataType → TypeNode
  | .simple name => .simple name
  | .parametric name params => .parametric name params
  | .array _ => .array
  | .json props => .json (props.map Prod.fst)
  | .collection entity bounds => .collection entity bounds
  | .embedded entity => .embedded entity

mutual
/-- The types within a type, itself first, in pre-order: through the member type of an array and
the types of an object's properties in order. -/
def nodes : DataType → List DataType
  | .array inner => .array inner :: inner.nodes
  | .json props => .json props :: propertyNodes props
  | t => [t]

/-- The types within the types of properties, in order. -/
def propertyNodes : List (String × DataType) → List DataType
  | [] => []
  | (_, type) :: rest => type.nodes ++ propertyNodes rest
end

/-- The nodes of a type in pre-order, each by what it holds of its own. -/
def labels (t : DataType) : List TypeNode := t.nodes.map node

/-- No bare name of `embedded` is left anywhere in the type. -/
def Settled (embedded : List String) (t : DataType) : Prop :=
  ∀ n ∈ embedded, TypeNode.simple n ∉ t.labels

variable (embedded : List String)

theorem names_resolveProperties (props : List (String × DataType)) :
    (resolveProperties embedded props).map Prod.fst = props.map Prod.fst := by
  induction props with
  | nil => rfl
  | cons p rest ih =>
    obtain ⟨name, t⟩ := p
    simp [resolveProperties, ih]

theorem resolve_simple (n : String) :
    (DataType.simple n).resolve embedded = if n ∈ embedded then .embedded n else .simple n := by
  by_cases h : n ∈ embedded <;> simp [resolve, h]

mutual
/-- Resolution acts node by node: the nodes of a resolved type are the nodes of the type, each
resolved. -/
theorem labels_resolve :
    ∀ t : DataType, (t.resolve embedded).labels = t.labels.map (TypeNode.resolve embedded)
  | .simple n => by
    by_cases h : n ∈ embedded <;> simp [resolve_simple, h, labels, nodes, node, TypeNode.resolve]
  | .parametric _ _ | .collection _ _ | .embedded _ => by
    simp [resolve, labels, nodes, node, TypeNode.resolve]
  | .array inner => by
    have ih := labels_resolve inner
    simp only [labels] at ih
    simp [resolve, labels, nodes, node, TypeNode.resolve, ih]
  | .json props => by
    have ih := propertyLabels_resolve props
    simp [resolve, labels, nodes, node, TypeNode.resolve, names_resolveProperties, ih]

theorem propertyLabels_resolve :
    ∀ props : List (String × DataType),
      (propertyNodes (resolveProperties embedded props)).map node =
        ((propertyNodes props).map node).map (TypeNode.resolve embedded)
  | [] => rfl
  | (_, t) :: rest => by
    have ih := labels_resolve t
    simp only [labels] at ih
    simp [resolveProperties, propertyNodes, ih, propertyLabels_resolve rest]
end

/-- Resolution leaves no bare name it was given. -/
theorem settled_resolve (t : DataType) : (t.resolve embedded).Settled embedded := by
  intro n hn hmem
  rw [labels_resolve, List.mem_map] at hmem
  obtain ⟨l, -, hl⟩ := hmem
  cases l with
  | simple m =>
    by_cases hm : m ∈ embedded
    · simp [TypeNode.resolve, hm] at hl
    · simp only [TypeNode.resolve, hm, if_false, TypeNode.simple.injEq] at hl
      exact hm (hl ▸ hn)
  | _ => simp [TypeNode.resolve] at hl

theorem settled_simple {n : String} (h : (DataType.simple n).Settled embedded) : n ∉ embedded :=
  fun hn => h n hn (by simp [labels, nodes, node])

theorem Settled.inner {inner : DataType} (h : (DataType.array inner).Settled embedded) :
    inner.Settled embedded :=
  fun n hn hmem => h n hn (by simp only [labels, nodes, node, List.map_cons] at hmem ⊢; simp [hmem])

/-- The types within the properties of an object that holds no bare name of `embedded`. -/
def PropertiesSettled (props : List (String × DataType)) : Prop :=
  ∀ n ∈ embedded, TypeNode.simple n ∉ (propertyNodes props).map node

theorem Settled.properties {props : List (String × DataType)}
    (h : (DataType.json props).Settled embedded) : PropertiesSettled embedded props :=
  fun n hn hmem => h n hn (by simp only [labels, nodes, node, List.map_cons]; simp [hmem])

theorem PropertiesSettled.head {name : String} {t : DataType} {rest : List (String × DataType)}
    (h : PropertiesSettled embedded ((name, t) :: rest)) : t.Settled embedded :=
  fun n hn hmem => h n hn (by simp only [labels] at hmem; simp [propertyNodes, hmem])

theorem PropertiesSettled.tail {p : String × DataType} {rest : List (String × DataType)}
    (h : PropertiesSettled embedded (p :: rest)) : PropertiesSettled embedded rest :=
  fun n hn hmem => h n hn (by obtain ⟨_, _⟩ := p; simp [propertyNodes, hmem])

mutual
/-- A type with no bare name of `embedded` resolves to itself. -/
theorem resolve_of_settled : ∀ t : DataType, t.Settled embedded → t.resolve embedded = t
  | .simple n, h => by simp [resolve_simple, settled_simple embedded h]
  | .parametric _ _, _ | .collection _ _, _ | .embedded _, _ => by simp [resolve]
  | .array inner, h => by simp [resolve, resolve_of_settled inner (Settled.inner embedded h)]
  | .json props, h => by
    simp [resolve, resolveProperties_of_settled props (Settled.properties embedded h)]

theorem resolveProperties_of_settled :
    ∀ props : List (String × DataType), PropertiesSettled embedded props →
      resolveProperties embedded props = props
  | [], _ => rfl
  | (name, t) :: rest, h => by
    simp [resolveProperties, resolve_of_settled t (PropertiesSettled.head embedded h),
      resolveProperties_of_settled rest (PropertiesSettled.tail embedded h)]
end

theorem resolve_resolve (t : DataType) : (t.resolve embedded).resolve embedded = t.resolve embedded :=
  resolve_of_settled embedded _ (settled_resolve embedded t)

mutual
theorem render_resolve : ∀ t : DataType, (t.resolve embedded).render = t.render
  | .simple n => by by_cases h : n ∈ embedded <;> simp [resolve_simple, h, render]
  | .parametric _ _ | .collection _ _ | .embedded _ => by simp [resolve]
  | .array inner => by simp [resolve, render, render_resolve inner]
  | .json [] => by simp [resolve, resolveProperties, render]
  | .json (p :: ps) => by
    have h := renderProperties_resolve (p :: ps)
    simp only [resolveProperties] at h
    simp only [resolve, resolveProperties, render, h]

theorem renderProperties_resolve : ∀ props : List (String × DataType),
    renderProperties (resolveProperties embedded props) = renderProperties props
  | [] => rfl
  | (_, t) :: rest => by
    simp [resolveProperties, renderProperties, render_resolve t, renderProperties_resolve rest]
end

theorem usageNames_resolve : ∀ t : DataType, (t.resolve embedded).usageNames = t.usageNames
  | .simple n => by by_cases h : n ∈ embedded <;> simp [resolve_simple, h, usageNames]
  | .parametric _ _ | .collection _ _ | .embedded _ | .json _ => by simp [resolve, usageNames]
  | .array inner => by simp [resolve, usageNames, usageNames_resolve inner]

end DataType

/-- The entity with the type of every field changed by `g`, all else the same. -/
def Entity.mapFieldTypes (g : DataType → DataType) (e : Entity) : Entity :=
  { e with fields := e.fields.map fun f => { f with type := g f.type } }

namespace Entity

variable (g : DataType → DataType) (e : Entity)

@[simp] theorem name_mapFieldTypes : (e.mapFieldTypes g).name = e.name := rfl

@[simp] theorem isEmbedded_mapFieldTypes : (e.mapFieldTypes g).isEmbedded = e.isEmbedded := rfl

@[simp] theorem fields_mapFieldTypes :
    (e.mapFieldTypes g).fields = e.fields.map fun f => { f with type := g f.type } := rfl

@[simp] theorem fieldNames_mapFieldTypes : (e.mapFieldTypes g).fieldNames = e.fieldNames := by
  simp [fieldNames, List.flatMap_map]

theorem mapFieldTypes_id : e.mapFieldTypes id = e := by
  obtain ⟨name, kind, fields, links, features, comment⟩ := e
  simp only [mapFieldTypes, id, Entity.mk.injEq, and_true, true_and]
  apply List.map_id''
  intro f
  rfl

end Entity

namespace Document

/-- The document with the type of every field changed by `g`, all else the same. -/
def mapFieldTypes (g : DataType → DataType) (d : Document) : Document :=
  { d with schema := { d.schema with sections := d.schema.sections.map fun s =>
      { s with entities := s.entities.map (Entity.mapFieldTypes g) } } }

variable (d : Document)

@[simp] theorem sections_mapFieldTypes (g : DataType → DataType) :
    (d.mapFieldTypes g).schema.sections = d.schema.sections.map fun s =>
      { s with entities := s.entities.map (Entity.mapFieldTypes g) } := rfl

@[simp] theorem relationshipList_mapFieldTypes (g : DataType → DataType) :
    (d.mapFieldTypes g).relationshipList = d.relationshipList := rfl

@[simp] theorem entities_mapFieldTypes (g : DataType → DataType) :
    (d.mapFieldTypes g).entities = d.entities.map (Entity.mapFieldTypes g) := by
  simp [entities, List.map_flatMap, List.flatMap_map]

theorem mapFieldTypes_id : d.mapFieldTypes id = d := by
  have hs : (d.schema.sections.map fun s =>
      { s with entities := s.entities.map (Entity.mapFieldTypes id) }) = d.schema.sections := by
    apply List.map_id''
    intro s
    rw [List.map_id'' Entity.mapFieldTypes_id]
  unfold mapFieldTypes
  rw [hs]

theorem mapFieldTypes_mapFieldTypes (g g' : DataType → DataType) :
    (d.mapFieldTypes g).mapFieldTypes g' = d.mapFieldTypes (g' ∘ g) := by
  simp [mapFieldTypes, Entity.mapFieldTypes, Function.comp_def]

theorem embeddedNames_mapFieldTypes (g : DataType → DataType) :
    (d.mapFieldTypes g).embeddedNames = d.embeddedNames := by
  simp [embeddedNames, List.filter_map, Function.comp_def]

/-- Resolution changes the types of the fields and nothing else: each type is resolved against the
embedded entities of the document. -/
theorem resolve_eq_mapFieldTypes : d.resolve = d.mapFieldTypes (DataType.resolve d.embeddedNames) := by
  by_cases hempty : d.embeddedNames.isEmpty
  · have hnil : d.embeddedNames = [] := List.isEmpty_iff.mp hempty
    have hid : DataType.resolve [] = id := funext DataType.resolve_nil
    simp only [resolve, hempty, if_true]
    rw [hnil, hid, mapFieldTypes_id]
  · simp only [resolve, hempty, Bool.false_eq_true, if_false]
    rfl

theorem embeddedNames_resolve : d.resolve.embeddedNames = d.embeddedNames := by
  rw [resolve_eq_mapFieldTypes, embeddedNames_mapFieldTypes]

theorem resolve_resolve : d.resolve.resolve = d.resolve := by
  rw [resolve_eq_mapFieldTypes d.resolve, embeddedNames_resolve, resolve_eq_mapFieldTypes,
    mapFieldTypes_mapFieldTypes]
  congr 1
  funext t
  exact DataType.resolve_resolve _ t

theorem statistics_mapFieldTypes {g : DataType → DataType}
    (hg : ∀ t, (g t).usageNames = t.usageNames) : (d.mapFieldTypes g).statistics = d.statistics := by
  simp [statistics, List.flatMap_assoc, List.flatMap_map, List.filter_map, List.foldl_map,
    Function.comp_def, hg]

theorem statistics_resolve : d.resolve.statistics = d.statistics := by
  rw [resolve_eq_mapFieldTypes]
  exact statistics_mapFieldTypes d (DataType.usageNames_resolve _)

theorem validate_resolve (r : Rules) : d.resolve.validate r = d.validate r := by
  -- validation resolves the document first, and resolving again changes nothing
  have hscope : Scope.ofDocument d.resolve = Scope.ofDocument d := by
    simp only [Scope.ofDocument, resolve_resolve]
  simp only [validate, hscope]

theorem renderTypes_resolve :
    d.resolve.entities.map (fun e => e.fields.map (·.type.render)) =
      d.entities.map (fun e => e.fields.map (·.type.render)) := by
  simp [resolve_eq_mapFieldTypes, DataType.render_resolve]

/-- Resolving the embedded entity names of a document is idempotent and changes only the types of
its fields, each by resolving it against those names node by node. Nothing that reads types sees
the change: the notation of every field's type, the statistics and validation are the same. -/
theorem resolve_idempotent_invisible (r : Rules) :
    d.resolve.resolve = d.resolve ∧
    d.resolve = d.mapFieldTypes (DataType.resolve d.embeddedNames) ∧
    (∀ t : DataType, (t.resolve d.embeddedNames).labels =
      t.labels.map (TypeNode.resolve d.embeddedNames)) ∧
    d.resolve.entities.map (fun e => e.fields.map (·.type.render)) =
      d.entities.map (fun e => e.fields.map (·.type.render)) ∧
    d.resolve.statistics = d.statistics ∧
    d.resolve.validate r = d.validate r :=
  ⟨d.resolve_resolve, d.resolve_eq_mapFieldTypes, DataType.labels_resolve _,
    d.renderTypes_resolve, d.statistics_resolve, d.validate_resolve r⟩

end Document

end SchemaNotation
