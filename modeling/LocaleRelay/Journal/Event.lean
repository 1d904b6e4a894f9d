import LocaleRelay.Text.Quoted

/-!
# Log events

What the program logs: a level, the part of the program that speaks, a message and named fields.
An event made inside a run carries the run's span. Its line shows all of this in order and escapes
the control characters of the message, so that a message cannot steer a terminal.
-/

namespace LocaleRelay

/-- How much an event matters. -/
inductive Level where
  | debug
  | info
  | warn
  | error
  deriving Repr, DecidableEq

namespace Level

/-- The name of a level. -/
def name : Level → String
  | debug => "DEBUG"
  | info => "INFO"
  | warn => "WARN"
  | error => "ERROR"

/-- The name of a level in a column of five. -/
def column (level : Level) : String :=
  String.ofList (List.replicate (5 - level.name.length) ' ') ++ level.name

end Level

/-- The part of the program that an event comes from. -/
inductive Source where
  | pipeline
  | config
  | report
  | repository
  | lint
  | credentials
  | listing
  | program
  | session
  | configFile
  deriving Repr, DecidableEq

/-- The name of a part as the log shows it. -/
def Source.target : Source → String
  | pipeline => "l10n_sync_core::pipeline"
  | config => "l10n_sync_core::config"
  | report => "l10n_sync_core::report"
  | repository => "l10n_sync_core::git"
  | lint => "l10n_sync_core::lint"
  | credentials => "l10n_sync_core::transport"
  | listing => "l10n_sync_core::diagnostics"
  | program => "l10n_sync"
  | session => "l10n_sync::cli"
  | configFile => "l10n_sync::load_config"

/-- The value of a field. A line shows it in quotes unless it is bare. -/
inductive Value where
  | bare (words : String)
  | quoted (words : String)
  deriving Repr, DecidableEq

namespace Value

/-- A value as a line shows it. -/
def inLine : Value → String
  | bare words => words
  | quoted words => Text.quote words

end Value

/-- A named value of an event. -/
structure Field where
  name : String
  value : Value
  deriving Repr, DecidableEq

/-- The run in which an event is made, known by whether it was asked to publish. -/
structure Span where
  publishRequested : Bool
  deriving Repr, DecidableEq

/-- A span as a line shows it. -/
def Span.inLine (span : Span) : String :=
  "pipeline\x7bpush_requested=" ++ toString span.publishRequested ++ "\x7d: "

/-- A log event, with its named values in order and the run that it is made in. -/
structure Event where
  level : Level
  source : Source
  message : String
  fields : List Field
  span : Option Span
  deriving Repr, DecidableEq

namespace Event

/-- Write a number with two hexadecimal digits at least. -/
def twoHexDigits (n : Nat) : List Char :=
  if n < 16 then '0' :: Text.hexDigits n else Text.hexDigits n

/-- One character of a message in a line: the control characters that a terminal obeys are written
by their codes. -/
def escapeChar (c : Char) : List Char :=
  let code := c.toNat
  if code = 0x1b ∨ code = 0x07 ∨ code = 0x08 ∨ code = 0x0c ∨ code = 0x7f then
    '\\' :: 'x' :: twoHexDigits code
  else if 0x80 ≤ code ∧ code ≤ 0x9f then
    ['\\', 'u', '\x7b'] ++ Text.hexDigits code ++ ['\x7d']
  else [c]

/-- A message in a line. -/
def escape (message : String) : String := String.ofList (message.toList.flatMap escapeChar)

/-- The line of an event. -/
def line (event : Event) : String :=
  event.level.column ++ " " ++ (event.span.map Span.inLine).getD "" ++
    event.source.target ++ ": " ++
    escape event.message ++
    String.join (event.fields.map fun field => " " ++ field.name ++ "=" ++ field.value.inLine)

/-- Whether a log that is not detailed leaves an event out. -/
def isDetail (event : Event) : Bool := event.level = .debug

end Event

end LocaleRelay
