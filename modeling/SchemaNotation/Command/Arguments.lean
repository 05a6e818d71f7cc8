import SchemaNotation.Text.Integer
import SchemaNotation.Render.Diagram

/-! The command line: global options, a command, and the command's options and arguments.

Options are long (`--json`, `--output=x`, `--output x`) or short (`-i`, `-o x`, `-ox`); short
flags may be clustered (`-vi`), and a short option that takes a value takes the rest of its
cluster or else the next argument. `--` ends the options. Global options stand before the
command; a command's options may stand between its arguments. `--version` is acted on as soon as
the global options are read, before the command is looked up. Of an option given twice the last
value counts. -/

namespace SchemaNotation.Command

/-- An option: the key it is known by, its names, and whether it takes a value. -/
structure OptionSpec where
  key : String
  names : List String
  takesValue : Bool
deriving BEq, Repr, Inhabited

/-- Why a command line is refused. -/
inductive UsageError where
  | noSuchOption (name : String)
  | needsValue (name : String)
  | takesNoValue (name : String)
  | missingCommand
  | noSuchCommand (name : String)
  | missingArgument (name : String)
  | extraArgument (arg : String)
  | badValue (option value : String)
deriving BEq, Repr, Inhabited

/-- The message of a usage error. -/
def UsageError.message : UsageError → String
  | .noSuchOption n => "No such option: " ++ n
  | .needsValue n => "Option '" ++ n ++ "' requires an argument."
  | .takesNoValue n => "Option '" ++ n ++ "' does not take a value."
  | .missingCommand => "Missing command."
  | .noSuchCommand n => "No such command '" ++ n ++ "'."
  | .missingArgument n => "Missing argument '" ++ n ++ "'."
  | .extraArgument a => "Got unexpected extra argument (" ++ a ++ ")"
  | .badValue o v => "Invalid value for '" ++ o ++ "': '" ++ v ++ "'"

/-- Options found, with their values in the order given, and the other arguments. -/
structure Parsed where
  options : List (String × Option String)
  arguments : List String
deriving BEq, Repr, Inhabited

namespace Parsed

/-- Whether the flag of a key was given. -/
def flag (p : Parsed) (key : String) : Bool := p.options.any (·.1 == key)

/-- The last value given for a key. -/
def value? (p : Parsed) (key : String) : Option String :=
  (p.options.reverse.find? (·.1 == key)).bind Prod.snd

end Parsed

/-- The option of a name. -/
def findSpec (specs : List OptionSpec) (name : String) : Option OptionSpec :=
  specs.find? (·.names.contains name)

/-- Whether an option name is short: a dash and one other character. -/
def isShortName (name : String) : Bool :=
  match name.toList with
  | ['-', c] => c != '-'
  | _ => false

/-- The option of a long name; short names do not count. -/
def findLong (specs : List OptionSpec) (name : String) : Option OptionSpec :=
  if isShortName name then none else findSpec specs name

/-- Reads a cluster of short options `chars` (after the dash), with the arguments `rest` after
it: the options found, in order, and the arguments left. -/
def shortCluster (specs : List OptionSpec) :
    List Char → List String → Except UsageError (List (String × Option String) × List String)
  | [], rest => .ok ([], rest)
  | c :: more, rest =>
    let name := String.ofList ['-', c]
    match findSpec specs name with
    | none => .error (.noSuchOption name)
    | some spec =>
      if spec.takesValue then
        if more.isEmpty then
          match rest with
          | v :: after => .ok ([(spec.key, some v)], after)
          | [] => .error (.needsValue name)
        else .ok ([(spec.key, some (String.ofList more))], rest)
      else
        (shortCluster specs more rest).map fun (found, left) => ((spec.key, none) :: found, left)

/-- Reads one argument that starts with a dash, with the arguments `rest` after it: the options
it gives and the arguments left. A name with `=` is first tried as a long option with a value;
an argument with a single dash that names no long option is a cluster of short ones, so that
`-o=x` gives `-o` the value `=x`. -/
def readOption (specs : List OptionSpec) (arg : String) (rest : List String) :
    Except UsageError (List (String × Option String) × List String) :=
  let cs := arg.toList
  let (name, attached) := match cs.findIdx? (· == '=') with
    | some i => (String.ofList (cs.take i), some (String.ofList (cs.drop (i + 1))))
    | none => (arg, none)
  match findLong specs name with
  | some spec =>
    if spec.takesValue then
      match attached, rest with
      | some v, _ => .ok ([(spec.key, some v)], rest)
      | none, v :: after => .ok ([(spec.key, some v)], after)
      | none, [] => .error (.needsValue name)
    else if attached.isSome then .error (.takesNoValue name)
    else .ok ([(spec.key, none)], rest)
  | none =>
    match cs with
    | '-' :: '-' :: _ => .error (.noSuchOption name)
    | _ :: chars => shortCluster specs chars rest
    | [] => .error (.noSuchOption name)

/-- Reads arguments, at most `fuel` of them: options by `specs`, the others kept in order. With
`interspersed` options may follow other arguments; without, reading stops at the first other
argument, which is returned with those after it. Each step consumes at least one argument, so
fuel equal to their number suffices. -/
def readArguments (specs : List OptionSpec) (interspersed : Bool) :
    Nat → List String → Parsed → Except UsageError (Parsed × List String)
  | 0, args, acc => .ok (acc, args)
  | _ + 1, [], acc => .ok (acc, [])
  | fuel + 1, arg :: rest, acc =>
    if arg == "--" then
      if interspersed then .ok (⟨acc.options, acc.arguments ++ rest⟩, []) else .ok (acc, rest)
    else if arg.startsWith "-" && 1 < arg.length then
      match readOption specs arg rest with
      | .ok (found, left) => readArguments specs interspersed fuel left ⟨acc.options ++ found, acc.arguments⟩
      | .error e => .error e
    else if interspersed then readArguments specs interspersed fuel rest ⟨acc.options, acc.arguments ++ [arg]⟩
    else .ok (acc, arg :: rest)

/-- Reads all arguments of a command. -/
def readAll (specs : List OptionSpec) (args : List String) : Except UsageError Parsed :=
  (readArguments specs true (args.length + 1) args ⟨[], []⟩).map Prod.fst

/-- What the global part of a command line asks for. -/
inductive Invocation where
  /-- Show the version and stop. -/
  | version
  /-- Run a command, with the log level given, if any. -/
  | command (logLevel : Option String) (name : String) (args : List String)
deriving BEq, Repr, Inhabited

/-- The global options. -/
def globalSpecs : List OptionSpec :=
  [⟨"log-level", ["--log-level"], true⟩, ⟨"version", ["--version", "-v"], false⟩]

/-- Reads the global part of a command line. -/
def readInvocation (args : List String) : Except UsageError Invocation := do
  let (parsed, rest) ← readArguments globalSpecs false (args.length + 1) args ⟨[], []⟩
  if parsed.flag "version" then return .version
  match rest with
  | [] => throw .missingCommand
  | name :: more => return .command (parsed.value? "log-level") name more

/-- A request to reformat a file. -/
structure FormatRequest where
  file : String
  output : Option String
  inPlace : Bool
  check : Bool
  sortEntities : Bool
  sortFields : Bool
  noComments : Bool
  groupRelationships : Bool
deriving BEq, Repr, Inhabited

/-- A request to draw a diagram of a file. -/
structure DiagramRequest where
  file : String
  output : Option String
  theme : Theme
  maxFields : Int
  noComments : Bool
  noTypes : Bool
  noConstraints : Bool
  toStdout : Bool
deriving BEq, Repr, Inhabited

/-- A command with its arguments. -/
inductive Action where
  | parse (file : String) (json : Bool)
  | validate (files : List String) (strict : Bool) (json : Bool)
  | format (request : FormatRequest)
  | stats (file : String) (json : Bool)
  | diagram (request : DiagramRequest)
deriving BEq, Repr, Inhabited

/-- A flag with one long name. -/
def flagSpec (name : String) : OptionSpec := ⟨name, ["--" ++ name], false⟩

/-- The names of the commands. -/
def commandNames : List String := ["parse", "validate", "format", "stats", "mermaid"]

/-- The single argument `FILE` of a command. -/
def oneFile (p : Parsed) : Except UsageError String :=
  match p.arguments with
  | [] => .error (.missingArgument "FILE")
  | [f] => .ok f
  | _ :: extra :: _ => .error (.extraArgument extra)

/-- Reads the arguments of the command `name`. -/
def readAction (name : String) (args : List String) : Except UsageError Action :=
  match name with
  | "parse" => do
    let p ← readAll [flagSpec "json"] args
    return .parse (← oneFile p) (p.flag "json")
  | "validate" => do
    let p ← readAll [flagSpec "strict", flagSpec "json"] args
    if p.arguments.isEmpty then throw (.missingArgument "FILES...")
    return .validate p.arguments (p.flag "strict") (p.flag "json")
  | "format" => do
    let p ← readAll [⟨"in-place", ["--in-place", "-i"], false⟩, flagSpec "check",
      flagSpec "sort-entities", flagSpec "sort-fields", flagSpec "no-comments",
      flagSpec "group-relationships"] args
    let (file, output) ← match p.arguments with
      | [] => throw (.missingArgument "FILE")
      | [f] => pure (f, none)
      | [f, o] => pure (f, some o)
      | _ :: _ :: extra :: _ => throw (.extraArgument extra)
    return .format ⟨file, output, p.flag "in-place", p.flag "check", p.flag "sort-entities",
      p.flag "sort-fields", p.flag "no-comments", p.flag "group-relationships"⟩
  | "stats" => do
    let p ← readAll [flagSpec "json"] args
    return .stats (← oneFile p) (p.flag "json")
  | "mermaid" => do
    let p ← readAll [⟨"output", ["--output", "-o"], true⟩, ⟨"theme", ["--theme"], true⟩,
      ⟨"max-fields", ["--max-fields"], true⟩, flagSpec "no-comments", flagSpec "no-types",
      flagSpec "no-constraints", flagSpec "stdout"] args
    let file ← oneFile p
    let theme ← match p.value? "theme" with
      | none => pure Theme.default
      | some t =>
        match Theme.ofName? t with
        | some th => pure th
        | none => throw (.badValue "--theme" t)
    let maxFields ← match p.value? "max-fields" with
      | none => pure 15
      | some v =>
        match Text.readInt? v with
        | some n => if 1 ≤ n then pure n else throw (.badValue "--max-fields" v)
        | none => throw (.badValue "--max-fields" v)
    return .diagram ⟨file, p.value? "output", theme, maxFields, p.flag "no-comments",
      p.flag "no-types", p.flag "no-constraints", p.flag "stdout"⟩
  | other => .error (.noSuchCommand other)

end SchemaNotation.Command
