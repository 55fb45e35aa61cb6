import ForeignKeyLint.Config

/-!
The command line. Options and flags are read from left to right. An option waits for its value, and
what has been read is settled when the next option, flag or file comes, so the first fault met in
this order is the one that is told. Two flags and options are global: they stand before or after
the command. Arguments are text, and so are the paths that they spell.
-/

namespace ForeignKeyLint

open Lint Text

inductive OutputFormat where
  /-- A report for people. -/
  | text
  /-- One JSON document. -/
  | json
  /-- Annotations for a workflow on GitHub. -/
  | github
deriving Repr, DecidableEq

def OutputFormat.name : OutputFormat → String
  | .text => "text"
  | .json => "json"
  | .github => "github"

def OutputFormat.ofName? (name : String) : Option OutputFormat :=
  [.text, .json, .github].find? fun format => format.name = name

/-- Why a command line leads to no run. -/
inductive Usage where
  | unknownArgument
  /-- A value that is missing, empty or not among the choices. -/
  | invalidValue
  | invalidSubcommand
  | missingSubcommand
  /-- An option or a flag that is given twice. -/
  | repeatedArgument
  /-- A flag with a value. -/
  | unexpectedValue
  | helpRequested
  | versionRequested
  /-- Nothing is given at all. -/
  | nothingGiven
deriving Repr, DecidableEq

/-- What a run is asked to do. -/
structure Invocation where
  files : List Path := []
  schema : Option Path := none
  migrationsDir : Option Path := none
  base : Option String := none
  order : Option FileOrder := none
  scope : Option Scope := none
  format : OutputFormat := .text
  emitEvents : Bool := false
  verbose : Bool := false
  config : Option Path := none
deriving Repr, DecidableEq

/-- What the command line says wins over the configuration. -/
def Invocation.override (invocation : Invocation) (config : Config) : Config :=
  { config with
    schemaPath := invocation.schema.getD config.schemaPath
    migrationsDir := invocation.migrationsDir.getD config.migrationsDir
    fileOrder := invocation.order.getD config.fileOrder
    reportScope := invocation.scope.getD config.reportScope
    emitEvents := config.emitEvents || invocation.emitEvents }

namespace CommandLine

/-- Options that take a value. -/
inductive Opt where
  | config
  | schema
  | migrationsDir
  | base
  | order
  | scope
  | format
deriving Repr, DecidableEq

inductive Flag where
  | verbose
  | emitEvents
  | help
  | version
deriving Repr, DecidableEq

/-- Whether the command has been named yet. -/
inductive Level where
  | program
  | check
deriving Repr, DecidableEq

def Level.options : Level → List (String × Opt)
  | .program => [("config", .config)]
  | .check =>
    [("config", .config), ("schema", .schema), ("migrations-dir", .migrationsDir), ("base", .base),
      ("order", .order), ("scope", .scope), ("format", .format)]

def Level.flags : Level → List (String × Flag)
  | .program => [("verbose", .verbose), ("help", .help), ("version", .version)]
  | .check => [("verbose", .verbose), ("help", .help), ("emit-events", .emitEvents)]

def Level.letters : Level → List (Char × Flag)
  | .program => [('v', .verbose), ('h', .help), ('V', .version)]
  | .check => [('v', .verbose), ('h', .help)]

/-- The option takes the value. A base may be empty. -/
def Opt.accepts (option : Opt) (value : String) : Bool :=
  match option with
  | .config | .schema | .migrationsDir => !value.isEmpty
  | .base => true
  | .order => (FileOrder.ofName? value).isSome
  | .scope => (Scope.ofName? value).isSome
  | .format => (OutputFormat.ofName? value).isSome

/-- What has been read but not settled. -/
inductive Pending where
  | nothing
  | option (option : Opt) (value : Option String)
  | files (values : List String)
deriving Repr, DecidableEq

/-- What has been read at a level. -/
structure Draft where
  values : List (Opt × String) := []
  flags : List Flag := []
  files : List String := []
  pending : Pending := .nothing
deriving Repr, DecidableEq

namespace Draft

/-- Gives an option its value. -/
def set (draft : Draft) (option : Opt) (value : String) : Except Usage Draft :=
  if (draft.values.lookup option).isSome then .error .repeatedArgument
  else if !option.accepts value then .error .invalidValue
  else .ok { draft with values := draft.values ++ [(option, value)] }

/-- Settles what is pending. -/
def settle (draft : Draft) : Except Usage Draft :=
  let settled := { draft with pending := .nothing }
  match draft.pending with
  | .nothing => .ok settled
  | .option _ none => .error .invalidValue
  | .option option (some value) => settled.set option value
  | .files values =>
    if values.contains "" then .error .invalidValue
    else .ok { settled with files := settled.files ++ values }

def addFlag (draft : Draft) (flag : Flag) : Except Usage Draft := do
  let draft ← draft.settle
  match flag with
  | .help => .error .helpRequested
  | .version => .error .versionRequested
  | flag =>
    if draft.flags.contains flag then .error .repeatedArgument
    else .ok { draft with flags := draft.flags ++ [flag] }

/-- Adds the flags of a cluster of letters. -/
def addLetters (level : Level) (draft : Draft) : List Char → Except Usage Draft
  | [] => .ok draft
  | letter :: letters =>
    match level.letters.lookup letter with
    | some flag => do addLetters level (← draft.addFlag flag) letters
    | none => .error .unknownArgument

/-- Adds what starts with two dashes, which are not part of the text. -/
def addLong (level : Level) (draft : Draft) (text : List Char) : Except Usage Draft :=
  let (name, attached) := match splitAtFirst? ['='] text with
    | some (name, value) => (String.ofList name, some (String.ofList value))
    | none => (String.ofList text, none)
  match level.options.lookup name, level.flags.lookup name, attached with
  | some option, _, some value => do (← draft.settle).set option value
  | some option, _, none => do
    let draft ← draft.settle
    .ok { draft with pending := .option option none }
  | none, some _, some _ => .error .unexpectedValue
  | none, some flag, none => draft.addFlag flag
  | none, none, _ => .error .unknownArgument

def addFile (draft : Draft) (file : String) : Except Usage Draft :=
  match draft.pending with
  | .files values => .ok { draft with pending := .files (values ++ [file]) }
  | _ => do
    let draft ← draft.settle
    .ok { draft with pending := .files [file] }

/-- Adds an argument of options or flags or the value of an option; other words are left over. -/
def add? (level : Level) (draft : Draft) (argument : String) : Option (Except Usage Draft) :=
  match argument.toList, draft.pending with
  | '-' :: '-' :: text, _ => some (draft.addLong level text)
  | '-' :: letter :: letters, _ => some (draft.addLetters level (letter :: letters))
  | _, .option option none =>
    some (.ok { draft with pending := .option option (some argument) })
  | _, _ => none

end Draft

/-- Reads the arguments after the name of the command. After two dashes all are files. -/
def readCheck (draft : Draft) (onlyFiles : Bool) : List String → Except Usage Draft
  | [] => draft.settle
  | argument :: rest =>
    if onlyFiles then do readCheck (← draft.addFile argument) true rest
    else if argument = "--" then readCheck draft true rest
    else
      match draft.add? .check argument with
      | some draft => do readCheck (← draft) false rest
      | none => do readCheck (← draft.addFile argument) false rest

/-- What `help` is asked about: nothing, or a single command. -/
def helpOn : List String → Usage
  | [] | ["check"] | ["help"] => .helpRequested
  | _ => .invalidSubcommand

/-- A variable that stands in for an option must not be empty, unless the option is given. -/
def checkVariable (draft : Draft) (configVariable : Option String) : Except Usage Unit :=
  if (draft.values.lookup .config).isNone ∧ configVariable = some "" then .error .invalidValue
  else .ok ()

/-- Reads the arguments up to the name of the command, and then those of the command. -/
def readProgram (configVariable : Option String) (draft : Draft) (onlyWords : Bool) :
    List String → Except Usage (Draft × Draft)
  | [] => do
    let draft ← draft.settle
    checkVariable draft configVariable
    if draft.values.isEmpty && draft.flags.isEmpty && configVariable.isNone then
      .error .nothingGiven
    else .error .missingSubcommand
  | argument :: rest =>
    if onlyWords then
      .error (if argument = "check" ∨ argument = "help" then .unknownArgument else .invalidSubcommand)
    else
      match draft.pending with
      | .option _ none => next argument rest
      | _ =>
        if argument = "check" then do
          let command ← readCheck {} false rest
          checkVariable command configVariable
          let draft ← draft.settle
          checkVariable draft configVariable
          .ok (draft, command)
        else if argument = "help" then .error (helpOn rest)
        else next argument rest
where
  /-- Reads an argument that does not name a command. -/
  next (argument : String) (rest : List String) : Except Usage (Draft × Draft) :=
    if argument = "--" then readProgram configVariable draft true rest
    else
      match draft.add? .program argument with
      | some draft => do readProgram configVariable (← draft) false rest
      | none => .error .invalidSubcommand

/-- The run that a command line asks for, given the variables that stand in for options. -/
def parse (configVariable baseVariable : Option String) (arguments : List String) :
    Except Usage Invocation := do
  let (program, command) ← readProgram configVariable {} false arguments
  let value (option : Opt) : Option String := command.values.lookup option
  .ok {
    files := command.files.map Path.ofText
    schema := (value .schema).map Path.ofText
    migrationsDir := (value .migrationsDir).map Path.ofText
    base := value .base <|> baseVariable
    order := (value .order).bind FileOrder.ofName?
    scope := (value .scope).bind Scope.ofName?
    format := ((value .format).bind OutputFormat.ofName?).getD .text
    emitEvents := command.flags.contains .emitEvents
    verbose := program.flags.contains .verbose || command.flags.contains .verbose
    config := (value .config <|> program.values.lookup .config <|> configVariable).map Path.ofText }

end CommandLine

end ForeignKeyLint
