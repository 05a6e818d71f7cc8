import SchemaNotation.Command.Session
import SchemaNotation.Command.Arguments
import SchemaNotation.Settings.Sources
import SchemaNotation.Settings.Dotenv
import SchemaNotation.Json.Model
import SchemaNotation.Json.Report
import SchemaNotation.Check.Report
import SchemaNotation.Render.Format

/-! The commands and a whole run of the command line.

A run reads its global options, shows the version if asked, looks up the command, reads the
settings and sets the log threshold, then reads the command's arguments and performs it.
`parse`, `stats` and `mermaid` read one schema file, `format` reformats one, and `validate`
checks several, reporting each file that cannot be read or parsed and going on with the next.
A run ends with exit code 0, with the exit code of a failure (1, or 2 for a refused command
line), or with an exception that escapes it. -/

namespace SchemaNotation.Command

/-- The version of the program. -/
def version : String := "0.4.0"

/-- The result of a run: the exit code, the two streams, the workspace afterwards, and the name
of the exception that ended the run, if one did. -/
structure Outcome where
  exitCode : Nat
  out : String
  err : String
  workspace : Workspace
  raised : Option String
deriving Inhabited

/-- Refuses the command line. -/
def refuse {α : Type} (e : UsageError) : Run α := do
  echoErr ("Usage: dbsoup [OPTIONS] COMMAND [ARGS]...\nTry 'dbsoup --help' for help.\n\nError: " ++
    e.message ++ "\n")
  throw (.exit 2)

/-- The variables of the environment file `.env`, if there is one, with a warning for each
statement that cannot be read. -/
def fileVariables (environment : List (String × String)) : Run (List (String × Option String)) := do
  let w := (← get).workspace
  match w.bytesAt? [".env"] with
  | none => return []
  | some bytes =>
    match Workspace.decodeText bytes with
    | .error _ => throw (.raised "UnicodeDecodeError")
    | .ok text =>
      let (vars, broken) := Dotenv.parse text environment
      for n in broken do
        writeErr ("python-dotenv could not parse statement starting at line " ++ toString n ++ "\n")
      return vars

/-- Reads the settings and sets the log threshold: the level given on the command line, or else
the configured one, in upper case. -/
def configure (environment : List (String × String)) (given : Option String) : Run Settings := do
  let vars ← fileVariables environment
  match Settings.ofSources environment vars with
  | .error _ => throw (.raised "ValidationError")
  | .ok settings =>
    let chosen := match given with
      | some l => if l.isEmpty then settings.logLevel.name else l
      | none => settings.logLevel.name
    let name := Text.upper chosen
    match LogLevel.ofName? name with
    | none => throw (.raised "ValueError")
    | some level =>
      modify fun s => { s with threshold := level }
      log .debug .setup ("Logging configured: level=" ++ name ++ ", log_file=" ++
        settings.logFile.getD "None")
      return settings

/-- What validation has gathered over the files so far. -/
structure Tallies where
  reports : List Json
  errors : Nat
  warnings : Nat
  failed : Bool

/-- Prints the findings on a file. -/
def printFindings (file : String) (f : Findings) : Run Unit := do
  if f.isValid then printMarkup ("[green]✓ " ++ file ++ " is valid[/green]")
  else printMarkup ("[red]✗ " ++ file ++ " is invalid[/red]")
  unless f.errors.isEmpty do
    printMarkup ("\n[bold red]Errors (" ++ toString f.errors.length ++ "):[/bold red]")
    for e in f.errors do
      printPlain ("  • " ++ e.message)
  unless f.warnings.isEmpty do
    printMarkup ("\n[bold yellow]Warnings (" ++ toString f.warnings.length ++ "):[/bold yellow]")
    for w in f.warnings do
      printPlain ("  • " ++ w)

/-- Records a file that could not be read or parsed: `shown` is reported, `cause` goes into the
report. -/
def unreadable (t : Tallies) (file shown cause : String) : Run Tallies := do
  log .error .validation shown
  echoErr ("Error: " ++ shown ++ "\n")
  let report := Json.obj [("file", .str file), ("is_valid", .bool false), ("parse_error", .str cause)]
  return { t with reports := t.reports ++ [report], failed := true }

/-- Validates one file. -/
def validateFile (rules : Rules) (strict json : Bool) (t : Tallies) (file : String) : Run Tallies := do
  let path := FilePathName.ofString file
  let shown := path.render
  match ← readSchemaFile path with
  | .error e => unreadable t shown e.message e.message
  | .ok text =>
    match ← readDocument text with
    | .error e => unreadable t shown (shown ++ ": " ++ e.message) e.message
    | .ok d =>
      let f := d.validate rules
      log .debug .checker ("Validated document: " ++ toString f.errors.length ++ " errors, " ++
        toString f.warnings.length ++ " warnings")
      let failed := t.failed || !f.isValid || (strict && !f.warnings.isEmpty)
      let reports := if json then t.reports ++ [f.toJson shown] else t.reports
      unless json do printFindings shown f
      return ⟨reports, t.errors + f.errors.length, t.warnings + f.warnings.length, failed⟩

/-- Validates files. -/
def validateFiles (settings : Settings) (files : List String) (strict json : Bool) : Run Unit := do
  let t ← files.foldlM (validateFile settings.rules strict json) ⟨[], 0, 0, false⟩
  if json then writeOut (Json.pretty (.arr t.reports) ++ "\n")
  else printMarkup ("\nSummary: " ++ toString t.errors ++ " errors, " ++ toString t.warnings ++ " warnings")
  if t.failed then throw (.exit 1)

/-- Parses a file and prints its model. -/
def parseFile (file : String) (json : Bool) : Run Unit := do
  let d ← loadDocument (FilePathName.ofString file)
  if json then writeOut (Json.pretty d.toJson ++ "\n")
  else
    printMarkup ("\n" ++ toString d.schema.sections.length ++ " modules, " ++
      toString d.entities.length ++ " entities, " ++ toString d.relationshipList.length ++
      " relationships")

/-- Prints the statistics of a file. -/
def statsFile (file : String) (json : Bool) : Run Unit := do
  let d ← loadDocument (FilePathName.ofString file)
  if json then writeOut (Json.pretty d.statistics.toJson ++ "\n")
  else writeOut d.statistics.report

/-- Reformats a file: checks it, prints it, or writes it. -/
def formatFile (settings : Settings) (r : FormatRequest) : Run Unit := do
  let path := FilePathName.ofString r.file
  let d ← loadDocument path
  let st := { settings.style with includeComments := !r.noComments, sortEntities := r.sortEntities,
                                  sortFields := r.sortFields,
                                  groupRelationships := r.groupRelationships }
  let formatted ← match d.layout st with
    | .ok text => pure text
    | .error fault => throw (.raised fault.exceptionName)
  if r.check then
    match ← readSchemaFile path with
    | .error (.notFound _) => throw (.raised "SchemaFileNotFoundError")
    | .error (.undecodable _ _) => throw (.raised "FileReadError")
    | .ok current =>
      if current != formatted then
        echoErr ("would reformat " ++ path.render ++ "\n")
        throw (.exit 1)
      printMarkup (path.render ++ " is already formatted")
  else
    let target := if r.inPlace then some path else r.output.map FilePathName.ofString
    match target with
    | none => echo formatted
    | some t =>
      writeFile t formatted
      printMarkup ("[green]Formatted " ++ path.render ++ " -> " ++ t.render ++ "[/green]")

/-- Draws the diagram of a file: prints it, or writes it. -/
def diagramFile (r : DiagramRequest) : Run Unit := do
  let path := FilePathName.ofString r.file
  let d ← loadDocument path
  let st : DiagramStyle := ⟨!r.noComments, !r.noTypes, !r.noConstraints, r.maxFields, r.theme⟩
  let text := d.diagram st
  if r.toStdout then echo text
  else
    let target ← match r.output with
      | some o => pure (FilePathName.ofString o)
      | none =>
        match path.withSuffix ".mmd" with
        | .ok p => pure p
        | .error _ => throw (.raised "ValueError")
    writeFile target text
    printMarkup ("[green]Mermaid diagram written to " ++ target.render ++ "[/green]")

/-- Performs a command. -/
def perform (settings : Settings) : Action → Run Unit
  | .parse file json => parseFile file json
  | .validate files strict json => validateFiles settings files strict json
  | .format r => formatFile settings r
  | .stats file json => statsFile file json
  | .diagram r => diagramFile r

/-- A whole run with the given process environment and arguments. -/
def session (environment : List (String × String)) (args : List String) : Run Unit := do
  match readInvocation args with
  | .error e => refuse e
  | .ok .version => echo ("dbsoup version: " ++ version ++ "\n")
  | .ok (.command level name rest) =>
    unless commandNames.contains name do refuse (.noSuchCommand name)
    let settings ← configure environment level
    match readAction name rest with
    | .error e => refuse e
    | .ok action => perform settings action

/-- Runs the command line on a workspace. -/
def run (environment : List (String × String)) (args : List String) (w : Workspace) : Outcome :=
  let (result, s) := (session environment args).run.run ⟨w, "", "", .warning⟩
  match result with
  | .ok () => ⟨0, s.out, s.err, s.workspace, none⟩
  | .error (.exit code) => ⟨code, s.out, s.err, s.workspace, none⟩
  | .error (.raised name) => ⟨1, s.out, s.err, s.workspace, some name⟩

end SchemaNotation.Command
