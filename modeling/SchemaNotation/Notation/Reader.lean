import SchemaNotation.Schema.Document
import SchemaNotation.Text.Lines
import SchemaNotation.Notation.FieldLine
import SchemaNotation.Notation.RelationshipLine
import SchemaNotation.Notation.Layout

/-! Reading a whole document.

A document is read line by line, in one pass, and reading stops at the first fault. In order it
holds: an optional front matter between two `---` lines, an optional header `@name.dbsoup`, an
optional block of relationship definitions, and the schema block, which lists the modules and
holds the module sections. Blank and comment lines may stand between these parts; the comments
before the schema are kept. After the schema nothing but blank and comment lines may follow.

Loops that read one part after another are bounded by the number of lines left, since each
round takes at least one line. Reading records milestones (a relationship block read, a module
section read, the document read), which a log may show; those before a fault are kept. -/

namespace SchemaNotation.Notation

open Text

/-- Lines of a document, each with its number counted from one. -/
abbrev Lines := List (Nat × String)

/-- A point reached while reading a document. -/
inductive Milestone where
  /-- The relationship block was read, with this many relationships. -/
  | relationships (count : Nat)
  /-- A module section was read, with this many entities. -/
  | moduleSection (name : String) (entities : Nat)
  /-- The whole document was read, with this many sections and entities. -/
  | document (sections entities : Nat)
deriving BEq, Repr, Inhabited

/-- Reading that may fail and that records milestones, which it keeps when it fails. -/
abbrev ReadM := ExceptT ParseError (StateM (Array Milestone))

/-- The outcome of a reading step as a step of `ReadM`. -/
def fromParse {α : Type} (p : Parse α) : ReadM α := ExceptT.mk (pure p)

/-- Records a milestone. -/
def reach (m : Milestone) : ReadM Unit := modify (·.push m)

/-- The lines of a text with their numbers. -/
def numberLines (text : String) : Lines :=
  (Text.lines text).zipIdx.map fun (l, i) => (i + 1, l)

/-- The lines left after blank lines. -/
def skipBlank (ls : Lines) : Lines := ls.dropWhile (isBlankLine ·.2)

/-- The text of a comment line: what follows the `#`, trimmed. -/
def commentText (line : String) : String := trim (dropChars (trim line) 1)

/-- The texts of the blank and comment lines at the start, and the lines after them. -/
def skipNotes : Lines → List String × Lines
  | [] => ([], [])
  | (n, l) :: rest =>
    if isBlankLine l then skipNotes rest
    else if isCommentLine l then
      let (notes, after) := skipNotes rest
      (commentText l :: notes, after)
    else ([], (n, l) :: rest)

/-- The entries of a front matter up to its closing line; `start` is the number of its opening
line. -/
def frontMatterFrom (start : Nat) : Lines → Metadata → Parse (Metadata × Lines)
  | [], _ => throw ⟨.unclosedFrontMatter, some start⟩
  | (_, l) :: rest, m =>
    let s := trim l
    if s == frontMatterMarker then pure (m, rest)
    else if s.isEmpty then frontMatterFrom start rest m
    else
      match breakOn? s ":" with
      | some (key, value) => frontMatterFrom start rest (m.insert (trim key) (trim value))
      | none => frontMatterFrom start rest (m.insert s "")

/-- Reads the front matter, if the lines start with one. -/
def readFrontMatter : Lines → Parse (Metadata × Lines)
  | (n, l) :: rest =>
    if trim l == frontMatterMarker then frontMatterFrom n rest .empty
    else pure (.empty, (n, l) :: rest)
  | [] => pure (.empty, [])

/-- Reads the header line `@name.dbsoup`, if the lines start with one. -/
def readHeader : Lines → Parse (Option String × Lines)
  | (n, l) :: rest =>
    let s := trim l
    if s.startsWith "@" then
      if s.endsWith fileExtension then
        pure (some (String.ofList ((s.toList.drop 1).take (s.length - 1 - fileExtension.length))), rest)
      else throw ⟨.headerExtension, some n⟩
    else pure (none, (n, l) :: rest)
  | [] => pure (none, [])

/-- Reads relationship lines up to the schema block or a module header. -/
def relationshipsFrom : Lines → Parse (List Relationship × Lines)
  | [] => pure ([], [])
  | (n, l) :: rest =>
    if isBlankLine l || isCommentLine l then relationshipsFrom rest
    else if trim l == schemaBlockMarker || isModuleHeader l then pure ([], (n, l) :: rest)
    else do
      let r ← readRelationship l (some n)
      let (more, after) ← relationshipsFrom rest
      pure (r :: more, after)

/-- Reads the block of relationship definitions, if the lines start with one. -/
def readRelationshipBlock : Lines → ReadM (Option (List Relationship) × Lines)
  | (n, l) :: rest =>
    if trim l == relationshipBlockMarker then do
      let (rs, after) ← fromParse (relationshipsFrom rest)
      reach (.relationships rs.length)
      pure (some rs, after)
    else pure (none, (n, l) :: rest)
  | [] => pure (none, [])

/-- Reads the module list: lines `+ Name # comment`, between which blank and comment lines may
stand. -/
def readModuleList : Lines → List String × Lines
  | [] => ([], [])
  | (n, l) :: rest =>
    let s := trim l
    if s.startsWith "+" then
      let (names, after) := readModuleList rest
      (trim (splitComment (trim (dropChars s 1))).1 :: names, after)
    else if isBlankLine l || isCommentLine l then readModuleList rest
    else ([], (n, l) :: rest)

/-- Reads field lines: lines that start with a sigil once trimmed. -/
def readFields : Lines → Parse (List Field × Lines)
  | [] => pure ([], [])
  | (n, l) :: rest =>
    match (trim l).toList with
    | c :: _ =>
      if (Sigil.ofChar? c).isSome then do
        let f ← readField l (some n)
        let (more, after) ← readFields rest
        pure (f :: more, after)
      else pure ([], (n, l) :: rest)
    | [] => pure ([], (n, l) :: rest)

/-- Reads the lines of a relationship section: notes and links. -/
def readLinkSection : Lines → Parse (LinkSection × Lines)
  | [] => pure (⟨[], []⟩, [])
  | (n, l) :: rest =>
    let s := trim l
    if s.startsWith noteMarker then do
      let (sec, after) ← readLinkSection rest
      pure ({ sec with notes := trim (dropChars s noteMarker.length) :: sec.notes }, after)
    else if s.startsWith "## " then do
      let link ← readLink s (some n)
      let (sec, after) ← readLinkSection rest
      pure ({ sec with links := link :: sec.links }, after)
    else pure (⟨[], []⟩, (n, l) :: rest)

/-- Reads the text lines of a feature section, up to a blank, comment or header line, or the
name line of the next entity. -/
def readFeatureLines : Lines → List String × Lines
  | [] => ([], [])
  | (n, l) :: rest =>
    let nextIsSeparator := match rest with
      | (_, next) :: _ => isSeparatorRow next
      | [] => false
    if isBlankLine l || isCommentLine l || isModuleHeader l || nextIsSeparator then
      ([], (n, l) :: rest)
    else
      let (content, after) := readFeatureLines rest
      (trim l :: content, after)

/-- Reads the relationship and feature sections below an entity's fields; `fuel` bounds their
number. -/
def readTrailing : Nat → Lines → Parse (List LinkSection × List Feature × Lines)
  | 0, ls => pure ([], [], ls)
  | _ + 1, [] => pure ([], [], [])
  | fuel + 1, (n, l) :: rest =>
    let s := trim l
    if s == linkSectionMarker then do
      let (sec, after) ← readLinkSection rest
      let (secs, features, after) ← readTrailing fuel after
      pure (sec :: secs, features, after)
    else if s.startsWith "# " && !s.startsWith "## " then do
      let (content, after) := readFeatureLines rest
      let (secs, features, after) ← readTrailing fuel after
      pure (secs, ⟨trim (dropChars s 2), content⟩ :: features, after)
    else pure ([], [], (n, l) :: rest)

/-- Reads an entity whose name line `l`, numbered `n`, comes before `rest`; `endLine` is the
number one past the last line. -/
def readEntity (endLine n : Nat) (l : String) (rest : Lines) : Parse (Entity × Lines) := do
  let (name, comment) := splitComment (trim l)
  if name.isEmpty then throw ⟨.unnamedEntity, some n⟩
  let ((m, separator), rest) ← match rest with
    | [] => throw ⟨.missingSeparator name, some endLine⟩
    | x :: more => pure (x, more)
  let kind ←
    if isStandardSeparator separator then pure EntityKind.standard
    else if isEmbeddedSeparator separator then pure EntityKind.embedded
    else throw ⟨.badSeparator name, some m⟩
  let (fields, rest) ← readFields rest
  let (linkSections, features, rest) ← readTrailing rest.length rest
  return ({ name, kind, fields, linkSections, features, comment }, rest)

/-- Reads the entities of a module section, up to the next module header; `fuel` bounds their
number. -/
def readEntities (endLine : Nat) : Nat → Lines → Parse (List Entity × Lines)
  | 0, ls => pure ([], ls)
  | fuel + 1, ls =>
    match (skipNotes ls).2 with
    | [] => pure ([], [])
    | (n, l) :: rest =>
      if isModuleHeader l then pure ([], (n, l) :: rest)
      else do
        let (e, after) ← readEntity endLine n l rest
        let (more, after) ← readEntities endLine fuel after
        pure (e :: more, after)

/-- Whether the line after a module header is its description: a free line that is not the name
line of an entity, which a separator row would follow. -/
def isDescription (line : String) (next : Option String) : Bool :=
  !(isBlankLine line || isCommentLine line || isModuleHeader line) &&
    !(next.map isSeparatorRow).getD false

/-- Reads a module section whose header line `l` comes before `rest`. -/
def readSection (endLine : Nat) (l : String) (rest : Lines) : ReadM (ModuleSection × Lines) := do
  let name := moduleName l
  let rest := skipBlank rest
  let (description, rest) := match rest with
    | (n, c) :: more =>
      if isDescription c (more.head?.map Prod.snd) then (some (trim c), more)
      else (none, (n, c) :: more)
    | [] => (none, [])
  let (entities, rest) ← fromParse (readEntities endLine (rest.length + 1) rest)
  reach (.moduleSection name entities.length)
  return (⟨name, description, entities⟩, rest)

/-- Reads module sections while a module header comes next; `fuel` bounds their number. -/
def readSections (endLine : Nat) : Nat → Lines → ReadM (List ModuleSection × Lines)
  | 0, ls => pure ([], ls)
  | fuel + 1, ls =>
    match (skipNotes ls).2 with
    | [] => pure ([], [])
    | (n, l) :: rest =>
      if isModuleHeader l then do
        let (sec, after) ← readSection endLine l rest
        let (more, after) ← readSections endLine fuel after
        pure (sec :: more, after)
      else pure ([], (n, l) :: rest)

/-- Reads the schema block. -/
def readSchema (endLine : Nat) : Lines → ReadM (Schema × Lines)
  | [] => throw ⟨.missingSchemaBlock, some endLine⟩
  | (n, l) :: rest =>
    if trim l != schemaBlockMarker then throw ⟨.expectedSchemaBlock, some n⟩
    else do
      let (modules, rest) := readModuleList rest
      let (sections, rest) ← readSections endLine (rest.length + 1) rest
      return (⟨modules, sections⟩, rest)

/-- Reads a whole document, recording milestones. -/
def readDocument (text : String) : ReadM Document := do
  let ls := numberLines text
  let endLine := ls.length + 1
  let (metadata, ls) ← fromParse (readFrontMatter (skipBlank ls))
  let (before, ls) := skipNotes ls
  let (header, ls) ← fromParse (readHeader ls)
  let (between, ls) := skipNotes ls
  let (relationships, ls) ← readRelationshipBlock ls
  let (after, ls) := skipNotes ls
  let (schema, ls) ← readSchema endLine ls
  match (skipNotes ls).2 with
  | (n, l) :: _ => throw ⟨.unexpectedContent (trim l), some n⟩
  | [] =>
    reach (.document schema.sections.length (schema.sections.flatMap (·.entities)).length)
    return { schema, header, relationships, comments := before ++ between ++ after, metadata }

end SchemaNotation.Notation

namespace SchemaNotation.Document

/-- Reads a document, with the milestones reached, also when reading fails. -/
def readTraced (text : String) : Parse Document × Array Notation.Milestone :=
  (Notation.readDocument text).run.run #[]

/-- Reads a document. -/
def read (text : String) : Parse Document := (readTraced text).1

end SchemaNotation.Document
