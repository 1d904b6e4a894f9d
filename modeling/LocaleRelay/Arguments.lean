/-!
# The command line

The options of the program: a flag to publish, a flag for a detailed log, and the path of a
configuration. Each may be given once, in any order. Arguments are read from left to right and the
first thing wrong with them decides; asking for help or for the version ends the reading too.
-/

namespace LocaleRelay

/-- The options of the program. -/
structure Options where
  push : Bool
  config : Option String
  verbose : Bool
  deriving Repr, DecidableEq

/-- What ends the reading of arguments early: a question for help or the version, or an argument
that cannot be read. -/
inductive Stop where
  | help
  | version
  | unknownArgument
  | invalidValue
  | repeated
  | tooManyValues
  deriving Repr, DecidableEq

namespace Stop

/-- The exit status: asking for help or for the version is no mistake. -/
def exitCode : Stop → Nat
  | help | version => 0
  | _ => 2

/-- The help text. -/
def helpText : String :=
  "Sync, lint and optionally publish the localization repository\n\n" ++
  "Usage: l10n-sync [OPTIONS]\n\n" ++
  "Options:\n" ++
  "      --push             Push the linted working copy to the deployment remote\n" ++
  "      --config <CONFIG>  Path to a YAML config file overriding the built-in defaults\n" ++
  "  -v, --verbose          Log at debug level\n" ++
  "  -h, --help             Print help\n" ++
  "  -V, --version          Print version\n"

/-- The version text. -/
def versionText : String := "l10n-sync 0.1.0\n"

/-- What the program prints when the reading of arguments ends early. -/
def output : Stop → String
  | help => helpText
  | version => versionText
  | _ => ""

end Stop

namespace Arguments

/-- What is known after some arguments. The option for the configuration is pending where it was met
but does not count yet, with its value once there is one. -/
structure State where
  options : Options
  pending : Option (Option String)
  deriving Repr, DecidableEq

/-- Nothing known yet. -/
def State.start : State := ⟨⟨false, none, false⟩, none⟩

/-- The options with the path of the configuration, which may be given once and not be empty. -/
def setConfig (options : Options) (path : String) : Except Stop Options :=
  if options.config.isSome then .error .repeated
  else if path.isEmpty then .error .invalidValue
  else .ok { options with config := some path }

/-- The options after the pending one counts. -/
def State.settle (state : State) : Except Stop Options :=
  match state.pending with
  | none => .ok state.options
  | some none => .error .invalidValue
  | some (some path) => setConfig state.options path

/-- The flags of the program. -/
inductive Flag where
  | push
  | verbose
  | help
  | version
  deriving Repr, DecidableEq

/-- The flag of a long name. -/
def longFlag? : List Char → Option Flag
  | name =>
    if name = "push".toList then some .push
    else if name = "verbose".toList then some .verbose
    else if name = "help".toList then some .help
    else if name = "version".toList then some .version
    else none

/-- The flag of a letter. -/
def shortFlag? : Char → Option Flag
  | 'v' => some .verbose
  | 'h' => some .help
  | 'V' => some .version
  | _ => none

/-- The options with a flag given, which may be given once. -/
def setFlag (options : Options) : Flag → Except Stop Options
  | .push => if options.push then .error .repeated else .ok { options with push := true }
  | .verbose => if options.verbose then .error .repeated else .ok { options with verbose := true }
  | .help => .error .help
  | .version => .error .version

/-- Meet a flag: what was pending counts first. -/
def meetFlag (state : State) (flag : Flag) : Except Stop State := do
  return ⟨← setFlag (← state.settle) flag, none⟩

/-- Meet letters after a dash, each of which is a flag. -/
def meetLetters (state : State) : List Char → Except Stop State
  | [] => .ok state
  | c :: rest =>
    match shortFlag? c with
    | none => .error .unknownArgument
    | some flag => do
      let state ← meetFlag state flag
      meetLetters state rest

/-- The parts of a long option before and after an equals sign. -/
def splitEquals : List Char → List Char × Option (List Char)
  | [] => ([], none)
  | c :: rest =>
    if c = '=' then ([], some rest)
    else
      let (name, value) := splitEquals rest
      (c :: name, value)

/-- Meet a long option after its dashes. -/
def meetLong (state : State) (chars : List Char) : Except Stop State :=
  let (name, value) := splitEquals chars
  if name = "config".toList then do
    let options ← state.settle
    match value with
    | some path => return ⟨← setConfig options (String.ofList path), none⟩
    | none => return ⟨options, some none⟩
  else
    match longFlag? name, value with
    | none, _ => .error .unknownArgument
    | some _, some _ => .error .tooManyValues
    | some flag, none => meetFlag state flag

/-- Meet a word that is no option: it can only be the value of the option before it. -/
def meetWord (state : State) (word : String) : Except Stop State :=
  match state.pending with
  | some none => .ok { state with pending := some (some word) }
  | _ => .error .unknownArgument

/-- Meet an argument. -/
def meet (state : State) (argument : String) : Except Stop State :=
  match argument.toList with
  | '-' :: '-' :: name => meetLong state name
  | '-' :: c :: letters => meetLetters state (c :: letters)
  | _ => meetWord state argument

/-- Read the arguments after a state. Two dashes alone end the options, and there is nothing that
may follow them. -/
def readFrom (state : State) : List String → Except Stop Options
  | [] => state.settle
  | argument :: rest =>
    if argument = "--" then
      if rest.isEmpty then state.settle else .error .unknownArgument
    else do
      let state ← meet state argument
      readFrom state rest

/-- Read the arguments of the program, without its name. -/
def read (arguments : List String) : Except Stop Options := readFrom .start arguments

end Arguments

end LocaleRelay
