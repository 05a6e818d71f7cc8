import SchemaNotation.Check.Relationships
import SchemaNotation.Check.Fields
import SchemaNotation.Check.Advice

/-! Validating a document.

Validation runs seven passes over the document with embedded references resolved, in order:
the header, the relationships, the structure, the data types, the constraints, the advisory
complexity checks and the cross-references. It reports every error and warning, ordered by
pass and then by the order found. A document is valid when no error is found. -/

namespace SchemaNotation

/-- All findings of a document under the given rules. -/
def Document.validate (d : Document) (r : Rules) : Findings :=
  let s := Scope.ofDocument d
  s.headerFindings ++ s.relationshipFindings ++ s.structureFindings ++ s.typeCheckFindings ++
    s.constraintCheckFindings ++ s.complexityFindings r ++ s.crossReferenceFindings

end SchemaNotation
