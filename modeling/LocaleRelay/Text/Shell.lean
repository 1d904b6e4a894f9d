/-!
# Words of a shell command

A text written as one word of a shell command. Single quotes make every character between them
literal, so only a single quote itself has to leave them.
-/

namespace LocaleRelay.Text.Shell

/-- One character inside single quotes: a quote closes them, stands escaped, and opens them
again. -/
def quoteChar (c : Char) : List Char := if c == '\'' then ['\'', '\\', '\'', '\''] else [c]

/-- Whether a word would be read as an option by the command it is given to. -/
def looksLikeOption : List Char → Bool
  | '-' :: _ => true
  | _ => false

/-- A path that begins with a dash is written from the current directory, so that no command
takes it for an option. -/
def guardOption (cs : List Char) : List Char :=
  if looksLikeOption cs then '.' :: '/' :: cs else cs

/-- A path as one word of a shell command. -/
def quotePath (cs : List Char) : List Char :=
  '\'' :: (guardOption cs).flatMap quoteChar ++ ['\'']

end LocaleRelay.Text.Shell
