import LocaleRelay.Files.Fault
import LocaleRelay.Files.Path
import LocaleRelay.Text.Lossy

/-!
# Failures of a run

What can end a run early, from the tool that failed outwards to the stage it failed in. Each failure
has a message, the messages of what caused it, and the exit status that reports it. Every message
ends with the message of its cause, so the outermost one tells the whole story.
-/

namespace LocaleRelay

open Files

/-- The failure of an external tool: it could not be started, it ended badly, or it printed nothing
usable. The status is missing if a signal ended it. -/
inductive ToolFailure where
  | launch (program : String) (fault : Fault)
  | exit (command : String) (code : Option Int)
  | unusable (command reason : String)
  deriving Repr, DecidableEq

/-- A failure while publishing: the key is not a regular file, or a tool failed. -/
inductive PublishFailure where
  | keyNotFound (path : RawPath)
  | tool (failure : ToolFailure)
  deriving Repr, DecidableEq

/-- The failure of a run, by the stage it stopped in. -/
inductive RunFailure where
  | sync (failure : ToolFailure)
  | write (path : RawPath) (fault : Fault)
  | lint (failure : ToolFailure)
  | publish (failure : PublishFailure)
  deriving Repr, DecidableEq

namespace ToolFailure

/-- How a tool ended, in words. -/
def describeCode : Option Int → String
  | some code => "status " ++ toString code
  | none => "no status (terminated by signal)"

/-- The message of a tool's failure. -/
def message : ToolFailure → String
  | launch program fault => "failed to launch `" ++ program ++ "`: " ++ fault.message
  | exit command code => "`" ++ command ++ "` exited with " ++ describeCode code
  | unusable command reason => "`" ++ command ++ "` produced unusable output: " ++ reason

/-- The messages of what caused a tool's failure. -/
def causes : ToolFailure → List String
  | launch _ fault => [fault.message]
  | exit _ _ | unusable _ _ => []

/-- The exit status for a tool's failure: the tool's own where it is one a failing process can
have, else one. -/
def exitCode : ToolFailure → Nat
  | exit _ (some code) => if 1 ≤ code ∧ code ≤ 255 then code.toNat else 1
  | _ => 1

end ToolFailure

namespace PublishFailure

/-- The message of a failure to publish. -/
def message : PublishFailure → String
  | keyNotFound path => "ssh key not found: " ++ Text.lossyText path
  | tool failure => failure.message

/-- The messages of what caused a failure to publish. A tool's failure stands for itself. -/
def causes : PublishFailure → List String
  | keyNotFound _ => []
  | tool failure => failure.causes

/-- The exit status for a failure to publish. -/
def exitCode : PublishFailure → Nat
  | keyNotFound _ => 1
  | tool failure => failure.exitCode

end PublishFailure

namespace RunFailure

/-- The message of a failed run. -/
def message : RunFailure → String
  | sync failure => "repository sync failed: " ++ failure.message
  | write path fault =>
    "failed to write status report " ++ Text.lossyText path ++ ": " ++ fault.message
  | lint failure => "lint failed: " ++ failure.message
  | publish failure => "publish failed: " ++ failure.message

/-- The messages of what caused a failed run, outermost first. -/
def causes : RunFailure → List String
  | sync failure | lint failure => failure.message :: failure.causes
  | write _ fault => [fault.message]
  | publish failure => failure.message :: failure.causes

/-- The exit status for a failed run. -/
def exitCode : RunFailure → Nat
  | sync failure | lint failure => failure.exitCode
  | write _ _ => 1
  | publish failure => failure.exitCode

/-- The message of a failed run and of all its causes on one line. -/
def joined (failure : RunFailure) : String :=
  ": ".intercalate (failure.message :: failure.causes)

end RunFailure

end LocaleRelay
