import LocaleRelay.Config.Decode
import LocaleRelay.Text.Blank

/-!
# Loading a configuration

The configuration of a file, or the built-in one where no file is named. A file of white space alone
stands for the built-in configuration. A file that cannot be read or understood is a failure that
names the file.
-/

namespace LocaleRelay

open Files

/-- Why a configuration could not be loaded: its file cannot be read, its text is malformed or more
than one document, or the document is not a configuration. -/
inductive ConfigFailure where
  | unreadable (path : String) (fault : Fault)
  | malformed (path : String)
  | invalid (path : String) (problem : Problem)
  deriving Repr, DecidableEq

namespace ConfigFailure

/-- The message of a failure to load. -/
def message : ConfigFailure → String
  | unreadable path _ => "Failed to read config file " ++ Text.quote path
  | malformed path | invalid path _ => "Failed to parse config YAML " ++ Text.quote path

/-- The messages of what caused a failure to load. What is malformed about a text is not told. -/
def causes : ConfigFailure → List String
  | unreadable _ fault => [fault.message]
  | malformed _ => []
  | invalid _ problem => [problem.message]

/-- The failure that a document without a configuration is. -/
def ofDecode (path : String) : DecodeFailure → ConfigFailure
  | .problem problem => invalid path problem
  | .unfinished => malformed path

end ConfigFailure

namespace Config

/-- The configuration that a text writes. -/
def ofText (text : String) : Except DecodeFailure Config := ofDocument (.ofText text)

/-- Load the configuration of a file. -/
def load (path : String) : Attempt ConfigFailure Config := do
  let field : Field := ⟨"config_path", .bare (Text.quote path)⟩
  Act.log .info .configFile "Loading configuration from file" [field]
  match (← Act.files).readText (utf8 path) with
  | .error fault =>
    Act.log .error .configFile "Failed to read config file"
      [⟨"error", .bare fault.structured⟩, field]
    throw (.unreadable path fault)
  | .ok text =>
    if Text.isBlankText text then return builtIn
    match ofText text with
    | .ok config =>
      Act.log .info .configFile "Parsed config YAML successfully" [field]
      return config
    | .error failure =>
      Act.log .error .configFile "Failed to parse config YAML"
        [⟨"error", .bare failure.message⟩, field]
      throw (ConfigFailure.ofDecode path failure)

/-- Load the configuration of a file, if one is named. -/
def loadOrBuiltIn : Option String → Attempt ConfigFailure Config
  | some path => load path
  | none => do
    Act.log .info .configFile "No config file given, using defaults" []
    return builtIn

end Config

end LocaleRelay
