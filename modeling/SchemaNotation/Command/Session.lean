import SchemaNotation.Files.Workspace
import SchemaNotation.Settings.Basic
import SchemaNotation.Terminal.Markup
import SchemaNotation.Notation.Reader

/-! A run of the command line as a pure computation.

A run reads and writes the files of a workspace, writes text to an output and an error stream,
and ends with an exit code or with an exception that escapes it. Log records go to the error
stream as `LEVEL    | source - message` when their level is at least the threshold. Console
lines are markup, rendered and ended by a line break; echoed text loses its escape codes. -/

namespace SchemaNotation.Command

/-- How a run stops early: with an exit code, or with an exception of the given name. -/
inductive Stop where
  | exit (code : Nat)
  | raised (name : String)
deriving BEq, Repr, Inhabited

/-- What a run has done so far: the workspace, the two streams and the log threshold. -/
structure Session where
  workspace : Workspace
  out : String
  err : String
  threshold : LogLevel
deriving Inhabited

/-- A step of a run. -/
abbrev Run := ExceptT Stop (StateM Session)

/-- Where log records come from. -/
inductive Source where
  | setup
  | reader
  | checker
  | files
  | commands
  | validation
deriving BEq, Repr, Inhabited, DecidableEq

/-- The module name a log record shows for its source. -/
def Source.name : Source → String
  | .setup => "dbsoup.utils"
  | .reader => "dbsoup.schema.parser"
  | .checker => "dbsoup.schema.validator"
  | .files => "dbsoup.file_utils"
  | .commands => "dbsoup.cli.commands.command_utils"
  | .validation => "dbsoup.cli.commands.schema"

/-- The line of a log record. -/
def logLine (level : LogLevel) (source : Source) (message : String) : String :=
  let name := level.name
  name ++ String.ofList (List.replicate (8 - name.length) ' ') ++ " | " ++ source.name ++ " - " ++
    message ++ "\n"

/-- Writes a log record if its level reaches the threshold. -/
def log (level : LogLevel) (source : Source) (message : String) : Run Unit :=
  modify fun s =>
    if s.threshold.severity ≤ level.severity then { s with err := s.err ++ logLine level source message }
    else s

/-- Writes text to the output stream. -/
def writeOut (text : String) : Run Unit := modify fun s => { s with out := s.out ++ text }

/-- Writes text to the error stream. -/
def writeErr (text : String) : Run Unit := modify fun s => { s with err := s.err ++ text }

/-- Echoes text to the output stream, without escape codes. -/
def echo (text : String) : Run Unit := writeOut (Markup.echoed text)

/-- Echoes text to the error stream, without escape codes. -/
def echoErr (text : String) : Run Unit := writeErr (Markup.echoed text)

/-- Prints a line of markup to the output stream; markup that does not render stops the run. -/
def printMarkup (markup : String) : Run Unit :=
  match Markup.render markup with
  | .ok text => writeOut (text ++ "\n")
  | .error _ => throw (.raised "MarkupError")

/-- Prints a line of plain text to the output stream. -/
def printPlain (text : String) : Run Unit := writeOut (Markup.plain text ++ "\n")

/-- Logs an error, echoes it, and stops with exit code 1. -/
def fail {α : Type} (message : String) : Run α := do
  log .error .commands message
  echoErr ("Error: " ++ message ++ "\n")
  throw (.exit 1)

/-- The log message of a reading milestone. -/
def milestoneMessage : Notation.Milestone → String
  | .relationships n => "Parsed " ++ toString n ++ " relationship definitions"
  | .moduleSection name n => "Module '" ++ name ++ "': " ++ toString n ++ " entities"
  | .document s e => "Parsed document: " ++ toString s ++ " modules, " ++ toString e ++ " entities"

/-- Reads a document, logging each milestone reached. -/
def readDocument (text : String) : Run (Parse Document) := do
  let (result, milestones) := Document.readTraced text
  for m in milestones.toList do
    log .debug .reader (milestoneMessage m)
  return result

/-- Reads the text of a schema file, logging the read or the failure to decode. -/
def readSchemaFile (path : FilePathName) : Run (Except ReadFault String) := do
  let result := (← get).workspace.readText path
  match result with
  | .ok _ => log .debug .files "Read schema file"
  | .error (.undecodable _ _) => log .error .files "Failed to read file"
  | .error (.notFound _) => pure ()
  return result

/-- Reads and parses a schema file; a failure to do either ends the run. -/
def loadDocument (path : FilePathName) : Run Document := do
  match ← readSchemaFile path with
  | .error e => fail e.message
  | .ok text =>
    match ← readDocument text with
    | .ok d => return d
    | .error e => fail (path.render ++ ": " ++ e.message)

/-- Writes a file atomically; a failure ends the run. -/
def writeFile (path : FilePathName) (text : String) : Run Unit := do
  let (after, fault) := (← get).workspace.writeAtomic path text
  modify fun s => { s with workspace := after }
  match fault with
  | none => log .debug .files "Wrote file atomically"
  | some (.emptyName _) => throw (.raised "ValueError")
  | some (.stuck e) => throw (.raised e.fault.exceptionName)
  | some f@(.failed _ _) =>
    log .error .files "Failed to write file"
    fail f.message

end SchemaNotation.Command
