import SchemaNotation.Command.Run

/-! The command-line program.

It gathers what a run reads: its arguments, the settings variables of the process environment,
and the environment file and the files the arguments name in the current directory. It runs the
command line on them, prints the two streams, writes back the files the run created or changed,
and exits with the run's exit code. -/

namespace SchemaNotation.Program

/-- The bytes of a file, if it can be read. -/
def readIfPresent (name : String) : IO (Option ByteArray) := do
  try
    return some (← IO.FS.readBinFile name)
  catch _ =>
    return none

/-- The variables of the process environment that hold settings. -/
def settingVariables : IO (List (String × String)) :=
  Settings.names.filterMapM fun n => do
    let key := "DBSOUP_" ++ Text.upper n
    return (← IO.getEnv key).map fun v => (key, v)

/-- The workspace a run on `args` reads: the environment file, the files the arguments name, and
the directories that hold them. -/
def gather (args : List String) : IO Workspace := do
  let files ← (".env" :: args).filterMapM fun n => do
    return (← readIfPresent n).map fun b => (n, b)
  return ⟨files, args.map fun a => (FilePathName.ofString a).parent.render⟩

/-- Whether the workspace `before` holds a file of this name with these bytes. -/
def unchanged (before : Workspace) (name : String) (bytes : ByteArray) : Bool :=
  before.files.any fun (n, b) => n == name && b.data == bytes.data

end SchemaNotation.Program

/-- Runs the command line on the current directory. -/
def main (args : List String) : IO UInt32 := do
  let environment ← SchemaNotation.Program.settingVariables
  let before ← SchemaNotation.Program.gather args
  let o := SchemaNotation.Command.run environment args before
  IO.print o.out
  IO.eprint o.err
  for (name, bytes) in o.workspace.files do
    unless SchemaNotation.Program.unchanged before name bytes do
      try
        IO.FS.writeBinFile name bytes
      catch e =>
        IO.eprintln (toString e)
        return 1
  match o.raised with
  | some name =>
    IO.eprintln name
    return 1
  | none => return o.exitCode.toUInt32
