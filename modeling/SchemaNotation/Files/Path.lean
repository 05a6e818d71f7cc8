import SchemaNotation.Text.Quote
import SchemaNotation.Text.Search

/-! File paths with slash separators.

A path is read by dropping empty and `.` components; a path that starts with a slash is rooted,
and exactly two leading slashes stay two. A path with no components is `.`. The name is the last
component; its suffix starts at its last dot, unless that dot is the first or the last character
of the name. Giving a path another suffix replaces the old one or adds the new one. -/

namespace SchemaNotation

/-- A path: its root (empty, `/` or `//`) and its components. -/
structure FilePathName where
  root : String
  parts : List String
deriving BEq, Repr, Inhabited, DecidableEq

namespace FilePathName

/-- The components of `cs` between slashes; `part` holds the current one in reverse. -/
def splitSlashes : List Char → List Char → List String
  | [], part => [String.ofList part.reverse]
  | c :: rest, part =>
    if c == '/' then String.ofList part.reverse :: splitSlashes rest [] else splitSlashes rest (c :: part)

/-- Reads a path. -/
def ofString (s : String) : FilePathName :=
  let root := match s.toList with
    | '/' :: '/' :: '/' :: _ => "/"
    | '/' :: '/' :: _ => "//"
    | '/' :: _ => "/"
    | _ => ""
  ⟨root, (splitSlashes s.toList []).filter fun p => !p.isEmpty && p != "."⟩

/-- The text of a path. -/
def render (p : FilePathName) : String :=
  if p.root.isEmpty && p.parts.isEmpty then "." else p.root ++ "/".intercalate p.parts

/-- The last component, or the empty text for a path without components. -/
def name (p : FilePathName) : String := p.parts.getLastD ""

/-- The suffix of a name: from its last dot, unless that dot starts or ends the name. -/
def suffixOf (name : String) : String :=
  let cs := name.toList
  match (List.range cs.length).reverse.find? (fun i => cs[i]? == some '.') with
  | some i => if 0 < i && i + 1 < cs.length then String.ofList (cs.drop i) else ""
  | none => ""

/-- Why a path cannot take a suffix. -/
inductive SuffixError where
  /-- The suffix holds a slash, does not start with a dot, or is a dot alone. -/
  | invalidSuffix (suffix : String)
  /-- The path has no name to change. -/
  | emptyName (path : FilePathName)
deriving BEq, Repr, Inhabited

/-- The message of a suffix error. -/
def SuffixError.message : SuffixError → String
  | .invalidSuffix s => "Invalid suffix " ++ Text.quoteLiteral s
  | .emptyName p => "PosixPath(" ++ Text.quoteLiteral p.render ++ ") has an empty name"

/-- The path with its name's suffix replaced by `suffix`, or `suffix` added when it has none. -/
def withSuffix (p : FilePathName) (suffix : String) : Except SuffixError FilePathName :=
  if suffix.toList.contains '/' || (!suffix.isEmpty && suffix.toList.head? != some '.') ||
      suffix == "." then
    .error (.invalidSuffix suffix)
  else if p.name.isEmpty then .error (.emptyName p)
  else
    let old := suffixOf p.name
    let stem := Text.takeChars p.name (p.name.length - old.length)
    .ok ⟨p.root, p.parts.dropLast ++ [stem ++ suffix]⟩

/-- The path with `extra` added to its name. -/
def appendToName (p : FilePathName) (extra : String) : FilePathName :=
  match p.parts.getLast? with
  | some n => ⟨p.root, p.parts.dropLast ++ [n ++ extra]⟩
  | none => ⟨p.root, [extra]⟩

/-- The directory that holds the path's last component, as a path. -/
def parent (p : FilePathName) : FilePathName := ⟨p.root, p.parts.dropLast⟩

example : ((ofString "schemas/app.dbsoup").withSuffix ".mmd").toOption.map render = some "schemas/app.mmd" ∧
    ((ofString "a.b.").withSuffix ".mmd").toOption.map render = some "a.b..mmd" ∧
    ((ofString ".hidden").withSuffix ".mmd").toOption.map render = some ".hidden.mmd" ∧
    ((ofString "a/").withSuffix ".mmd").toOption.map render = some "a.mmd" ∧
    ((ofString "a/b.c").withSuffix "").toOption.map render = some "a/b" := by
  decide

end FilePathName

end SchemaNotation
