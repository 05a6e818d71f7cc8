import SchemaNotation.Schema.DataType
import SchemaNotation.Text.Case

/-! Fields of an entity.

A field line opens with one or more sigils that mark the field required, optional, indexed,
sensitive, masked, partitioned or audited. One or more synonymous names follow, then the type,
then bracketed constraints such as `[PK]` or `[FK:User.id]`, and last an inline comment.
Constraint names compare without regard to case. -/

namespace SchemaNotation

/-- A sigil that opens a field line. -/
inductive Sigil where
  | required
  | optional
  | indexed
  | sensitive
  | masked
  | partitioned
  | audit
deriving BEq, Repr, Inhabited, DecidableEq

namespace Sigil

/-- The character of a sigil. -/
def symbol : Sigil → Char
  | .required => '*'
  | .optional => '-'
  | .indexed => '!'
  | .sensitive => '@'
  | .masked => '~'
  | .partitioned => '>'
  | .audit => '$'

/-- The sigil a character stands for, if any. -/
def ofChar? : Char → Option Sigil
  | '*' => some .required
  | '-' => some .optional
  | '!' => some .indexed
  | '@' => some .sensitive
  | '~' => some .masked
  | '>' => some .partitioned
  | '$' => some .audit
  | _ => none

/-- The word for what a sigil marks. -/
def word : Sigil → String
  | .required => "required"
  | .optional => "optional"
  | .indexed => "indexed"
  | .sensitive => "sensitive"
  | .masked => "masked"
  | .partitioned => "partitioned"
  | .audit => "audit"

theorem ofChar?_symbol (s : Sigil) : ofChar? s.symbol = some s := by
  cases s <;> rfl

end Sigil

/-- A constraint on a field: a name, and a value after a colon if one is given. -/
structure Constraint where
  name : String
  value : Option String
deriving BEq, Repr, Inhabited, DecidableEq

namespace Constraint

/-- The notation `NAME` or `NAME:value`. -/
def render (c : Constraint) : String :=
  match c.value with
  | some v => c.name ++ ":" ++ v
  | none => c.name

/-- The name in upper case, the key under which constraints compare. -/
def key (c : Constraint) : String := Text.upper c.name

end Constraint

/-- A field of an entity. -/
structure Field where
  sigils : List Sigil
  names : List String
  type : DataType
  constraints : List Constraint
  comment : Option String
deriving BEq, Repr, Inhabited

namespace Field

/-- The first of the field's names. -/
def name (f : Field) : String := f.names.headD ""

/-- All the field's names, separated by a comma and a space. -/
def displayName (f : Field) : String := ", ".intercalate f.names

/-- The first constraint of the field with the given name, compared without regard to case. -/
def constraint? (f : Field) (name : String) : Option Constraint :=
  f.constraints.find? (·.key == Text.upper name)

/-- Whether the field has a constraint of the given name. -/
def hasConstraint (f : Field) (name : String) : Bool := (f.constraint? name).isSome

/-- Whether the field is part of the primary key. -/
def isKey (f : Field) : Bool := f.hasConstraint "PK"

end Field

end SchemaNotation
