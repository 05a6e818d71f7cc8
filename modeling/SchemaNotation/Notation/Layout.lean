import SchemaNotation.Text.Blank
import SchemaNotation.Text.Search

/-! The kinds of lines that give a document its layout.

A blank line holds blanks only; a comment line starts with `#` once trimmed. An entity name is
underlined by a separator row: at least two `=` for a standard entity, or `/=…=/` for an
embedded one. A module header is `=== Name ===`, with any number of trailing `=`. Fixed lines
mark the relationship definitions, the schema, and an entity's relationship section. -/

namespace SchemaNotation.Notation

open Text

/-- The line that opens the relationship definitions. -/
def relationshipBlockMarker : String := "=== RELATIONSHIP DEFINITIONS ==="

/-- The line that opens the schema. -/
def schemaBlockMarker : String := "=== DATABASE SCHEMA ==="

/-- The line that opens an entity's relationship section. -/
def linkSectionMarker : String := "# RELATIONSHIPS"

/-- The start of a relationship note in a relationship section. -/
def noteMarker : String := "@ relationships::"

/-- The line that opens and closes the front matter. -/
def frontMatterMarker : String := "---"

/-- The extension of schema files, which a header line ends with. -/
def fileExtension : String := ".dbsoup"

/-- Whether a line holds blanks only. -/
def isBlankLine (line : String) : Bool := isBlankText line

/-- Whether a line is a comment. -/
def isCommentLine (line : String) : Bool := (trim line).startsWith "#"

/-- Whether a line is a standard separator row: two or more `=` and nothing else. -/
def isStandardSeparator (line : String) : Bool :=
  let s := (trim line).toList
  2 ≤ s.length && s.all (· == '=')

/-- Whether a line is an embedded separator row: `=` between two slashes. -/
def isEmbeddedSeparator (line : String) : Bool :=
  match (trim line).toList with
  | '/' :: rest =>
    rest.getLast? == some '/' && !rest.dropLast.isEmpty && rest.dropLast.all (· == '=')
  | _ => false

/-- Whether a line is a separator row of either kind. -/
def isSeparatorRow (line : String) : Bool := isStandardSeparator line || isEmbeddedSeparator line

/-- The name of a module header `=== Name ===`: three `=`, blanks, the name, and trailing
blanks and `=`. The name must lie on one line. -/
def headerName? (line : String) : Option String :=
  match (trim line).toList with
  | '=' :: '=' :: '=' :: rest =>
    match rest with
    | c :: _ =>
      if isBlank c then
        let name := dropBlanks ((dropBlanks rest).reverse.dropWhile (· == '=')) |>.reverse
        if name.contains '\n' then none else some (trim (String.ofList name))
      else none
    | [] => none
  | _ => none

/-- Whether a line is a module header, which starts with `=== ` once trimmed. -/
def isModuleHeader (line : String) : Bool :=
  (trim line).startsWith "=== " && (headerName? line).isSome

/-- The module name of a header line, or the empty text for another line. -/
def moduleName (line : String) : String := (headerName? line).getD ""

example : headerName? "=== Core ===" = some "Core" ∧ headerName? "=== A = B ====" = some "A = B" ∧
    headerName? "=== = ===" = some "=" ∧ headerName? "=== ===" = some "" ∧
    headerName? "===Core" = none := by decide

end SchemaNotation.Notation
