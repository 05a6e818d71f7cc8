/-! Relationships between entities.

A relationship line `From -> To [1:M] (composition) via Junction` names two entities, a
cardinality, and optionally a nature and a junction entity. Inside an entity, a link
`## Order.user_id -> User.id` ties a field of one entity to a field of another. -/

namespace SchemaNotation

/-- The cardinality of a relationship: one of three multiplicities or one of three structural
kinds. -/
inductive Cardinality where
  | oneToOne
  | oneToMany
  | manyToMany
  | inheritance
  | composition
  | aggregation
deriving BEq, Repr, Inhabited, DecidableEq

namespace Cardinality

/-- All cardinalities, in the order that groups relationships. -/
def all : List Cardinality :=
  [.oneToOne, .oneToMany, .manyToMany, .inheritance, .composition, .aggregation]

/-- The token of a cardinality. -/
def token : Cardinality → String
  | .oneToOne => "1:1"
  | .oneToMany => "1:M"
  | .manyToMany => "M:N"
  | .inheritance => "inheritance"
  | .composition => "composition"
  | .aggregation => "aggregation"

/-- The cardinality a token names, if any. -/
def ofToken? (s : String) : Option Cardinality := all.find? (·.token == s)

/-- The position of a cardinality in `all`. -/
def rank : Cardinality → Nat
  | .oneToOne => 0
  | .oneToMany => 1
  | .manyToMany => 2
  | .inheritance => 3
  | .composition => 4
  | .aggregation => 5

end Cardinality

/-- The nature of a relationship: how strongly one side owns the other. -/
inductive Nature where
  | composition
  | aggregation
  | association
  | inheritance
  | dependency
deriving BEq, Repr, Inhabited, DecidableEq

namespace Nature

/-- All natures. -/
def all : List Nature := [.composition, .aggregation, .association, .inheritance, .dependency]

/-- The token of a nature. -/
def token : Nature → String
  | .composition => "composition"
  | .aggregation => "aggregation"
  | .association => "association"
  | .inheritance => "inheritance"
  | .dependency => "dependency"

/-- The nature a token names, if any. -/
def ofToken? (s : String) : Option Nature := all.find? (·.token == s)

end Nature

/-- A declared relationship between two entities. -/
structure Relationship where
  source : String
  target : String
  cardinality : Cardinality
  nature : Option Nature
  via : Option String
  comment : Option String
deriving BEq, Repr, Inhabited, DecidableEq

namespace Relationship

/-- The label `From -> To [cardinality]` that names a relationship in reports. -/
def label (r : Relationship) : String :=
  r.source ++ " -> " ++ r.target ++ " [" ++ r.cardinality.token ++ "]"

end Relationship

/-- A link from a field of one entity to a field of another. -/
structure Link where
  sourceEntity : String
  sourceField : String
  targetEntity : String
  targetField : String
  comment : Option String
deriving BEq, Repr, Inhabited, DecidableEq

end SchemaNotation
