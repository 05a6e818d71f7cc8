/-! Identifiers of the notation.

An identifier starts with an ASCII letter or an underscore and goes on with ASCII letters,
digits and underscores. A qualified name is two identifiers joined by a dot (`User.id`). -/

namespace SchemaNotation.Notation

/-- Whether a character may start an identifier. -/
def isIdentStart (c : Char) : Bool := c.isAlpha || c == '_'

/-- Whether a character may continue an identifier. -/
def isIdentChar (c : Char) : Bool := c.isAlphanum || c == '_'

/-- Whether a list of characters is one identifier. -/
def isIdentList : List Char → Bool
  | [] => false
  | c :: rest => isIdentStart c && rest.all isIdentChar

/-- Whether a text is one identifier. -/
def isIdentifier (s : String) : Bool := isIdentList s.toList

/-- The identifier at the start of `cs` and the characters after it, if one starts there. -/
def leadingIdent? (cs : List Char) : Option (List Char × List Char) :=
  match cs with
  | c :: rest => if isIdentStart c then some (c :: rest.takeWhile isIdentChar, rest.dropWhile isIdentChar) else none
  | [] => none

/-- The two identifiers of a qualified name `entity.field`. -/
def qualifiedName? (s : String) : Option (String × String) :=
  match leadingIdent? s.toList with
  | some (entity, '.' :: rest) =>
    if isIdentList rest then some (String.ofList entity, String.ofList rest) else none
  | _ => none

example : qualifiedName? "User.id" = some ("User", "id") ∧ qualifiedName? "User.id.x" = none ∧
    qualifiedName? "1Order.id" = none ∧ qualifiedName? "User" = none := by decide

end SchemaNotation.Notation
