import SchemaNotation.Text.Case
import SchemaNotation.Text.Search

/-! Thresholds of the advisory checks.

An entity with fewer fields than `minFields` draws a warning unless its name contains one of
the `smallMarkers`. A JSON object with more than `maxProperties` properties draws one too. Each
substructure pattern names a fragment of entity names and the field-name hints such an entity
is expected to carry; the fragment and the hints match regardless of case. -/

namespace SchemaNotation

/-- Thresholds and tables of the advisory checks. -/
structure Rules where
  minFields : Int := 3
  maxProperties : Int := 2
  smallMarkers : List String := ["Config", "Setting"]
  patterns : List (String × List String) :=
    [("Route", ["stops", "waypoints", "segments"]),
     ("Order", ["items", "payments", "addresses"]),
     ("User", ["profiles", "preferences", "contacts"]),
     ("Product", ["variants", "categories", "attributes"]),
     ("Invoice", ["lineItems", "payments", "addresses"]),
     ("Document", ["sections", "attachments", "comments"]),
     ("Course", ["lessons", "assignments", "resources"]),
     ("Event", ["attendees", "sessions", "resources"])]
deriving BEq, Repr, Inhabited

namespace Rules

/-- A table of patterns from pairs; a pattern given twice keeps its first place and its last
hints. -/
def patternTable (pairs : List (String × List String)) : List (String × List String) :=
  let add (table : List (String × List String)) (entry : String × List String) :=
    if table.any (·.1 == entry.1) then
      table.map fun (q, h) => if q == entry.1 then (q, entry.2) else (q, h)
    else table ++ [entry]
  pairs.foldl add []

/-- Whether an entity of this name may have few fields. -/
def allowsFewFields (r : Rules) (name : String) : Bool :=
  r.smallMarkers.any (Text.contains name ·)

/-- The patterns whose fragment occurs in the entity name, regardless of case. -/
def expectedSubstructures (r : Rules) (name : String) : List (String × List String) :=
  r.patterns.filter fun (p, _) => Text.contains (Text.lower name) (Text.lower p)

/-- Whether some field name contains some hint, regardless of case. -/
def hasHint (fieldNames hints : List String) : Bool :=
  hints.any fun h => fieldNames.any fun n => Text.contains (Text.lower n) (Text.lower h)

end Rules

end SchemaNotation
