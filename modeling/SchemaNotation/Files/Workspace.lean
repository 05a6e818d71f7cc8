import SchemaNotation.Files.Path
import SchemaNotation.Files.Utf8

/-! A working directory and the files in it.

The directory holds files under relative names of slash-separated components; a directory is
any proper prefix of a file's components, a directory known to exist or a prefix of one, and
the directory itself is the empty prefix. Paths
are resolved against it after normalisation; a rooted path or one that climbs with `..` lies
outside, where nothing is found. Reading a schema file decodes it as UTF-8 and turns `\r\n` and
`\r` into `\n`. Writing is atomic: the text goes to a file named like the target with `.tmp`
added, which then replaces the target; the system errors of both steps are reported with their
numbers and the file names they concern. -/

namespace SchemaNotation

/-- An operating-system error that writing a file can meet. -/
inductive SystemFault where
  | noEntry
  | notDirectory
  | isDirectory
  | nameTooLong
deriving BEq, Repr, Inhabited, DecidableEq

namespace SystemFault

/-- The error number. -/
def number : SystemFault → Nat
  | .noEntry => 2
  | .notDirectory => 20
  | .isDirectory => 21
  | .nameTooLong => 36

/-- The error text. -/
def text : SystemFault → String
  | .noEntry => "No such file or directory"
  | .notDirectory => "Not a directory"
  | .isDirectory => "Is a directory"
  | .nameTooLong => "File name too long"

end SystemFault

/-- A system error with the file names it concerns: one, or a source and a destination. -/
structure SystemError where
  fault : SystemFault
  names : List String
deriving BEq, Repr, Inhabited

/-- The text `[Errno N] text: 'name'`, two names joined by an arrow. -/
def SystemError.message (e : SystemError) : String :=
  "[Errno " ++ toString e.fault.number ++ "] " ++ e.fault.text ++ ": " ++
    " -> ".intercalate (e.names.map Text.quoteLiteral)

/-- What a path names in a workspace. -/
inductive EntryKind where
  | file
  | directory
  | absent
deriving BEq, Repr, Inhabited, DecidableEq

/-- Why a schema file could not be read. -/
inductive ReadFault where
  /-- The path names no file. -/
  | notFound (path : String)
  /-- The file is not UTF-8. -/
  | undecodable (path : String) (failure : Utf8.Failure)
deriving BEq, Repr, Inhabited

/-- The message of a read fault. -/
def ReadFault.message : ReadFault → String
  | .notFound p => "File not found: " ++ p
  | .undecodable p f => "Failed to read file " ++ p ++ ": " ++ f.message

/-- The name of the exception that a system fault raises. -/
def SystemFault.exceptionName : SystemFault → String
  | .noEntry => "FileNotFoundError"
  | .notDirectory => "NotADirectoryError"
  | .isDirectory => "IsADirectoryError"
  | .nameTooLong => "OSError"

/-- Why a file could not be written. -/
inductive WriteFault where
  /-- The path has no name, so no temporary name can be made from it. -/
  | emptyName (path : FilePathName)
  /-- A system error while writing or replacing, after which the temporary file is gone. -/
  | failed (path : String) (error : SystemError)
  /-- A system error that removing the temporary file met again after a failed write. -/
  | stuck (error : SystemError)
deriving BEq, Repr, Inhabited

/-- The message of a failed write. -/
def WriteFault.message : WriteFault → String
  | .emptyName p => FilePathName.render p ++ " has an empty name"
  | .failed path e => "Failed to write file " ++ path ++ ": " ++ e.message
  | .stuck e => e.message

/-- A directory of files: each file's components joined by slashes, with its bytes, and the
directories known to exist besides those that hold files. -/
structure Workspace where
  files : List (String × ByteArray)
  directories : List String
deriving Inhabited

namespace Workspace

/-- The components of a path inside the workspace, or none for a path outside it. -/
def locate (p : FilePathName) : Option (List String) :=
  if p.root.isEmpty && !p.parts.contains ".." then some p.parts else none

/-- The components of a file's name. -/
def partsOf (name : String) : List String := (FilePathName.ofString name).parts

/-- What the components `parts` name. -/
def kindOf (w : Workspace) (parts : List String) : EntryKind :=
  if parts.isEmpty then .directory
  else if w.files.any (fun (n, _) => partsOf n == parts) then .file
  else if w.files.any (fun (n, _) => parts.isPrefixOf (partsOf n)) ||
      w.directories.any (fun d => parts.isPrefixOf (partsOf d)) then .directory
  else .absent

/-- The bytes of the file at the given components. -/
def bytesAt? (w : Workspace) (parts : List String) : Option ByteArray :=
  (w.files.find? fun (n, _) => partsOf n == parts).map Prod.snd

/-- The workspace with the file at `parts` holding `bytes`. -/
def put (w : Workspace) (parts : List String) (bytes : ByteArray) : Workspace :=
  let name := "/".intercalate parts
  if w.files.any (fun (n, _) => partsOf n == parts) then
    ⟨w.files.map (fun (n, b) => if partsOf n == parts then (n, bytes) else (n, b)), w.directories⟩
  else ⟨w.files ++ [(name, bytes)], w.directories⟩

/-- The workspace without the file at `parts`. -/
def erase (w : Workspace) (parts : List String) : Workspace :=
  ⟨w.files.filter (fun (n, _) => partsOf n != parts), w.directories⟩

/-- The files sorted by name. -/
def listing (w : Workspace) : List (String × ByteArray) :=
  w.files.mergeSort fun a b => decide (a.1 ≤ b.1)

/-- The bytes of the file at a path, if the path names a file. -/
def fileBytes? (w : Workspace) (p : FilePathName) : Option ByteArray :=
  (locate p).bind w.bytesAt?

/-- Turns `\r\n` and `\r` into `\n`. -/
def unifyBreaks : List Char → List Char
  | '\r' :: '\n' :: rest => '\n' :: unifyBreaks rest
  | '\r' :: rest => '\n' :: unifyBreaks rest
  | c :: rest => c :: unifyBreaks rest
  | [] => []

/-- The text of a file: decoded from UTF-8, with `\n` for every line break of a file. -/
def decodeText (bytes : ByteArray) : Except Utf8.Failure String :=
  (Utf8.decode bytes).map fun s => String.ofList (unifyBreaks s.toList)

/-- Reads the text of the schema file at a path. -/
def readText (w : Workspace) (p : FilePathName) : Except ReadFault String :=
  match w.fileBytes? p with
  | none => .error (.notFound p.render)
  | some bytes =>
    match decodeText bytes with
    | .ok text => .ok text
    | .error f => .error (.undecodable p.render f)

/-- Whether a component is longer than a file name may be. -/
def tooLong (part : String) : Bool := decide (255 < part.utf8ByteSize)

/-- The first fault met on the way to the components `parts`, all of which must be
directories; `walked` are the components already passed. -/
def walkFault (w : Workspace) (walked : List String) : List String → Option SystemFault
  | [] => none
  | part :: rest =>
    if tooLong part then some .nameTooLong
    else
      let here := walked ++ [part]
      match w.kindOf here with
      | .file => some .notDirectory
      | .absent => some .noEntry
      | .directory => walkFault w here rest

/-- The fault met creating a file at `parts`, if any. -/
def createFault (w : Workspace) (parts : List String) : Option SystemFault :=
  match walkFault w [] parts.dropLast with
  | some f => some f
  | none =>
    if tooLong (parts.getLastD "") then some .nameTooLong
    else if w.kindOf parts == .directory then some .isDirectory
    else none

/-- Writes `text` to the file at a path through a temporary file beside it: the workspace
afterwards, and the fault if the write failed. When creating the temporary file fails, removing
it meets the same fault, which is harmless only when the file is missing. -/
def writeAtomic (w : Workspace) (p : FilePathName) (text : String) :
    Workspace × Option WriteFault :=
  if p.name.isEmpty then (w, some (.emptyName p))
  else
    let temp := p.appendToName ".tmp"
    match locate temp, locate p with
    | some tempParts, some parts =>
      match createFault w tempParts with
      | some .noEntry => (w, some (.failed p.render ⟨.noEntry, [temp.render]⟩))
      | some f => (w, some (.stuck ⟨f, [temp.render]⟩))
      | none =>
        if w.kindOf parts == .directory then
          (w.erase tempParts, some (.failed p.render ⟨.isDirectory, [temp.render, p.render]⟩))
        else ((w.erase tempParts).put parts text.toUTF8, none)
    | _, _ => (w, some (.failed p.render ⟨.noEntry, [temp.render]⟩))

end Workspace

end SchemaNotation
