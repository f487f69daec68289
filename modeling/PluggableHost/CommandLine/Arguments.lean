import PluggableHost.Text.Similarity

namespace PluggableHost.CommandLine

/-!
# Arguments

The program takes two options with a value and two that only print something.
Arguments are read from left to right. A value that stands apart from its option
is taken when the next argument is neither an option nor its own; until then
the option is pending.
-/

/-- The options of the command line. -/
inductive Choice where
  | config
  | logLevel
  | help
  | version
  deriving Repr, DecidableEq

namespace Choice

/-- The option's long name, without the dashes. -/
def name : Choice → String
  | config => "config"
  | logLevel => "log-level"
  | help => "help"
  | version => "version"

/-- The option's letter, if it has one. -/
def letter? : Choice → Option Char
  | config => some 'c'
  | logLevel => none
  | help => some 'h'
  | version => some 'V'

/-- The word that stands for the option's value, if it takes one. -/
def value? : Choice → Option String
  | config => some "CONFIG"
  | logLevel => some "LOG_LEVEL"
  | _ => none

/-- An empty value counts as none. -/
def needsText : Choice → Bool
  | config => true
  | _ => false

/-- The option as it is shown in a usage line. -/
def text (choice : Choice) : String :=
  "--" ++ choice.name ++ ((choice.value?.map fun value => " <" ++ value ++ ">").getD "")

/-- Every option, in the order in which similar names are looked for. -/
def all : List Choice := [config, logLevel, help, version]

/-- The option with a long name. -/
def named? (name : String) : Option Choice := all.find? fun choice => choice.name = name

/-- The option with a letter. -/
def lettered? (letter : Char) : Option Choice :=
  all.find? fun choice => choice.letter? = some letter

end Choice

/-- Why arguments are not understood. -/
inductive Rejection where
  /-- There is no such argument; usage shows the options that were given. -/
  | unknown (argument : String) (similar : Option Choice) (used : List Choice)
  | valueMissing (choice : Choice)
  | repeated (choice : Choice)
  | valueUnneeded (value : String) (choice : Choice) (used : List Choice)
  deriving Repr, DecidableEq

/-- The usage line, with the options that were used. -/
def usage (used : List Choice) : String :=
  "Usage: service-host " ++
    (if used.isEmpty then "[OPTIONS]" else String.intercalate " " (used.map Choice.text))

/-- The paragraphs in which a rejection is told. -/
def Rejection.paragraphs : Rejection → List String
  | unknown argument similar used =>
      let tip := similar.toList.map fun choice =>
        "  tip: a similar argument exists: '--" ++ choice.name ++ "'"
      ["error: unexpected argument '" ++ argument ++ "' found"] ++ tip ++ [usage used]
  | valueMissing choice =>
      ["error: a value is required for '" ++ choice.text ++ "' but none was supplied"]
  | repeated choice =>
      ["error: the argument '" ++ choice.text ++ "' cannot be used multiple times", usage []]
  | valueUnneeded value choice used =>
      ["error: unexpected value '" ++ value ++ "' for '" ++ choice.text ++
        "' found; no more were expected", usage used]

/-- The rejection as it is printed. -/
def Rejection.text (rejection : Rejection) : String :=
  String.intercalate "\n\n"
    (rejection.paragraphs ++ ["For more information, try '--help'.\n"])

/-- What is printed when help was asked for. -/
def helpLines : List String :=
  ["Pluggable HTTP(S) service host", "", usage [], "", "Options:",
    "  -c, --config <CONFIG>        Path to the TOML configuration file " ++
      "[default: config/server.toml]",
    "      --log-level <LOG_LEVEL>  Override the configured log level",
    "  -h, --help                   Print help",
    "  -V, --version                Print version"]

/-- The version of the program. -/
def version : String := "0.1.0"

/-- What is printed when the version was asked for. -/
def versionLines : List String := ["service-host " ++ version]

/-- What the arguments ask for. -/
inductive Wish where
  | showHelp
  | showVersion
  | serve (config : String) (logLevel : Option String)
  deriving Repr, DecidableEq

/-- What has been read so far. -/
structure Progress where
  /-- The options with their values, in the order in which they were given. -/
  taken : List (Choice × String) := []
  /-- The option whose value stands apart, and the value once it has been read. -/
  pending : Option (Choice × Option String) := none
  /-- No more options follow. -/
  closed : Bool := false
  deriving Repr, DecidableEq

namespace Progress

/-- The options that were taken so far. -/
def used (progress : Progress) : List Choice := progress.taken.map Prod.fst

/-- Take an option with its value, unless it was taken before or its value is missing. -/
def take (progress : Progress) (choice : Choice) (value : String) :
    Except Rejection Progress :=
  if progress.used.contains choice then .error (.repeated choice)
  else if choice.needsText && value.isEmpty then .error (.valueMissing choice)
  else .ok { progress with taken := progress.taken ++ [(choice, value)] }

/-- Take the pending option; its value must have been read by now. -/
def settle (progress : Progress) : Except Rejection Progress :=
  let idle := { progress with pending := none }
  match progress.pending with
  | none => .ok progress
  | some (choice, none) => .error (.valueMissing choice)
  | some (choice, some value) => idle.take choice value

/-- The progress with the pending option taken, or without it when that is not possible. -/
def settled (progress : Progress) : Progress :=
  progress.settle.toOption.getD { progress with pending := none }

/-- The wish that complete arguments amount to. -/
def wish (progress : Progress) : Wish :=
  .serve ((progress.taken.lookup .config).getD "config/server.toml")
    (progress.taken.lookup .logLevel)

end Progress

/-- What reading one argument leads to. -/
inductive Reading where
  | more (progress : Progress)
  /-- The rest does not matter any more. -/
  | enough (wish : Wish)

/-- An option, with the value that is attached to it if there is one. -/
def readChoice (progress : Progress) (choice : Choice) (attached : Option String) :
    Except Rejection Reading := do
  match choice, attached with
  | .help, _ =>
      let _ ← progress.settle
      return .enough .showHelp
  | .version, _ =>
      let _ ← progress.settle
      return .enough .showVersion
  | choice, some value => return .more (← (← progress.settle).take choice value)
  | choice, none => return .more { ← progress.settle with pending := some (choice, none) }

/-- The option that an unknown one may have been meant to be. -/
def similarChoice? (name : String) : Option Choice :=
  (Text.mostSimilar? name (Choice.all.map Choice.name)).bind Choice.named?

/-- An argument after two dashes. -/
def readLong (progress : Progress) (argument : List Char) : Except Rejection Reading :=
  let name := argument.takeWhile (· != '=')
  let attached :=
    if name.length = argument.length then none
    else some (String.ofList (argument.drop (name.length + 1)))
  match Choice.named? (String.ofList name), attached with
  | none, _ =>
      let similar := similarChoice? (String.ofList name)
      let used := progress.settled.used
      let suggested := similar.toList.filter fun choice => !used.contains choice
      .error (.unknown ("--" ++ String.ofList name) similar (used ++ suggested))
  | some choice, some value =>
      if choice.value?.isNone then
        .error (.valueUnneeded value choice (progress.used ++ [choice]))
      else readChoice progress choice attached
  | some choice, none => readChoice progress choice none

/-- An argument after one dash: a letter, with the value of its option if one is attached. -/
def readShort (progress : Progress) (letter : Char) (rest : List Char) :
    Except Rejection Reading :=
  match Choice.lettered? letter with
  | none => .error (.unknown (String.ofList ['-', letter]) none [])
  | some choice =>
      let attached :=
        match rest with
        | [] => none
        | '=' :: value => some (String.ofList value)
        | value => some (String.ofList value)
      readChoice progress choice attached

/-- An argument that is no option: the value of the pending one. -/
def readPlain (progress : Progress) (argument : String) : Except Rejection Reading :=
  match progress.closed, progress.pending with
  | false, some (choice, none) =>
      .ok (.more { progress with pending := some (choice, some argument) })
  | _, _ => .error (.unknown argument none [])

/-- Read one argument, after those that were read before. -/
def readArgument (progress : Progress) (argument : String) : Except Rejection Reading :=
  if progress.closed then readPlain progress argument
  else
    match argument.toList with
    | ['-', '-'] => .ok (.more { progress with closed := true })
    | '-' :: '-' :: rest => readLong progress rest
    | '-' :: letter :: rest => readShort progress letter rest
    | _ => readPlain progress argument

/-- Read arguments after those that have been read. -/
def readArguments (progress : Progress) : List String → Except Rejection Wish
  | [] => return (← progress.settle).wish
  | argument :: rest => do
      match ← readArgument progress argument with
      | .enough wish => return wish
      | .more progress => readArguments progress rest

/-- Read all arguments. -/
def Wish.ofArguments (arguments : List String) : Except Rejection Wish :=
  readArguments {} arguments

end PluggableHost.CommandLine
