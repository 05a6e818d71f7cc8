/-! Data types of fields.

A field's type is a bare name (`UUID`), a name with parameters (`Decimal(10,2)`), an array of
another type (`Array<String>`), a JSON object, opaque or with typed properties
(`JSON{lat: Float, lng: Float}`), a bounded collection of another entity (`Address[0..*]`), or,
once names are resolved, a reference to an embedded entity. `DataType.render` writes a type back
in the notation. -/

namespace SchemaNotation

/-- How many members a collection holds: at least `min`, and at most `max` unless it is
unbounded. -/
structure Multiplicity where
  min : Int
  max : Option Int
deriving BEq, Repr, Inhabited, DecidableEq

namespace Multiplicity

/-- The notation `min..max`, with `*` for no upper bound. -/
def render (m : Multiplicity) : String :=
  toString m.min ++ ".." ++ (match m.max with | some n => toString n | none => "*")

end Multiplicity

/-- The type of a field. -/
inductive DataType where
  /-- A bare type name. -/
  | simple (name : String)
  /-- A type name with its parameters as written. -/
  | parametric (name : String) (params : List String)
  /-- An array of values of another type. -/
  | array (inner : DataType)
  /-- A JSON object with its named, typed properties; none for an opaque object. -/
  | json (properties : List (String × DataType))
  /-- A bounded collection of the entity named. -/
  | collection (entity : String) (bounds : Multiplicity)
  /-- A reference to an embedded entity. -/
  | embedded (entity : String)
deriving BEq, Repr, Inhabited

namespace DataType

mutual
/-- The notation of a type. -/
def render : DataType → String
  | .simple name => name
  | .parametric name params => name ++ "(" ++ ",".intercalate params ++ ")"
  | .array inner => "Array<" ++ inner.render ++ ">"
  | .json [] => "JSON"
  | .json (p :: ps) => "JSON\x7b" ++ ", ".intercalate (renderProperties (p :: ps)) ++ "\x7d"
  | .collection entity bounds => entity ++ "[" ++ bounds.render ++ "]"
  | .embedded entity => entity

/-- The notation `name: type` of each property of an object. -/
def renderProperties : List (String × DataType) → List String
  | [] => []
  | (name, type) :: rest => (name ++ ": " ++ type.render) :: renderProperties rest
end

end DataType

end SchemaNotation
