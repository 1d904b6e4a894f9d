import LocaleRelay.Config.Basic
import LocaleRelay.Failure
import LocaleRelay.Process.Execute

/-!
# The lint command

The lint command runs in its own directory with both of its streams at the end of an opened file. It
passes if it ends well, whatever it printed.
-/

namespace LocaleRelay

open Files

namespace LintConfig

/-- The command of a lint configuration. -/
def command (lint : LintConfig) : Command :=
  { number := 2, program := lint.program, args := lint.args.map utf8, directory := some lint.dir,
    vars := .none }

/-- Run the lint command with its output at the end of an opened file. -/
def run (host : Host) (lint : LintConfig) (sink : Location) : Attempt ToolFailure Unit := do
  Act.log .info .lint "Running lint"
    [⟨"command", .bare lint.commandLine⟩, ⟨"dir", .bare (Text.lossyText lint.dir)⟩]
  let finished ← (execute host lint.command (.file sink)).mapFailure (.launch lint.program)
  if finished.ending.isSuccess then
    Act.log .info .lint "Lint passed" [⟨"command", .bare lint.commandLine⟩]
  else
    Act.log .error .lint "Lint exited with non-zero code"
      [⟨"command", .bare lint.commandLine⟩, ⟨"status", .bare finished.ending.structured⟩]
    throw (.exit lint.commandLine finished.ending.code?)

end LintConfig

end LocaleRelay
