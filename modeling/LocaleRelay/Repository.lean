import LocaleRelay.Failure
import LocaleRelay.Process.Execute
import LocaleRelay.Text.Blank
import LocaleRelay.Text.Lossy

/-!
# The working copy

The version control system as the program uses it: clone, fast-forward, the commit that is checked
out, and publishing. Clone, pull and push leave their streams to the terminal; only the name of the
commit is read.
-/

namespace LocaleRelay

open Files

namespace Repository

/-- The version control program. -/
def program : String := "git"

/-- A command of the version control program. -/
def command (number : Nat) (args : List (List UInt8)) (vars : Variables) : Command :=
  { number, program, args, directory := none, vars }

/-- Whether a path holds a working copy already. -/
def isRepository (path : RawPath) : Act Bool :=
  return (← Act.files).reaches (Path.join path (utf8 ".git"))

/-- Run the version control program for its effect. -/
def run (host : Host) (number : Nat) (args : List (List UInt8)) (vars : Variables) :
    Attempt ToolFailure Unit := do
  let command := command number args vars
  Act.log .debug .repository "Running git" [⟨"command", .bare command.line⟩]
  let finished ← (execute host command .terminal).mapFailure (.launch program)
  if finished.ending.isSuccess then
    return ()
  else
    Act.log .error .repository "Git exited with non-zero code"
      [⟨"command", .bare command.line⟩, ⟨"status", .bare finished.ending.structured⟩]
    throw (.exit command.line finished.ending.code?)

/-- Make the directory that a path lies in, unless it is there. -/
def makeParent (path : RawPath) : Attempt ToolFailure Unit := do
  if let some parent := Path.namedParent? path then
    if !(← Act.files).reaches parent then
      Attempt.makeAll parent (.launch program)
      Act.log .debug .repository "Created parent directory for clone"
        [⟨"path", .bare (Text.lossyText parent)⟩]

/-- Clone a repository into a path. -/
def clone (host : Host) (remote : String) (path : RawPath) : Attempt ToolFailure Unit := do
  makeParent path
  run host 0 [utf8 "clone", utf8 remote, path] .none
  Act.log .info .repository "Successfully cloned git repository"
    [⟨"repo_url", .quoted remote⟩, ⟨"path", .bare (Text.lossyText path)⟩]

/-- Move a working copy forward to the state of a repository. -/
def pull (host : Host) (path : RawPath) (remote : String) : Attempt ToolFailure Unit := do
  run host 0 [utf8 "-C", path, utf8 "pull", utf8 "--ff-only", utf8 remote] .none
  Act.log .info .repository "Pulled git repository"
    [⟨"repo_url", .quoted remote⟩, ⟨"path", .bare (Text.lossyText path)⟩]

/-- The name of a commit in what the version control program printed. -/
def commitName (output : ByteArray) : String := Text.trim (Text.lossyText output.data.toList)

/-- The commit that is checked out in a working copy. -/
def headCommit (host : Host) (path : RawPath) : Attempt ToolFailure String := do
  let command := command 1 [utf8 "-C", path, utf8 "rev-parse", utf8 "HEAD"] .none
  let finished ← (execute host command .kept).mapFailure (.launch program)
  if finished.ending.isSuccess then
    let commit := commitName finished.output
    if commit.isEmpty then throw (.unusable command.line "empty commit identifier")
    else return commit
  else
    throw (.exit command.line finished.ending.code?)

/-- Publish a working copy to a repository, with changes to the environment. -/
def push (host : Host) (path : RawPath) (remote : String) (vars : Variables) :
    Attempt ToolFailure Unit := do
  run host 3 [utf8 "-C", path, utf8 "push", utf8 remote, utf8 "HEAD"] vars
  Act.log .info .repository "Pushed working copy"
    [⟨"remote", .quoted remote⟩, ⟨"path", .bare (Text.lossyText path)⟩]

end Repository

end LocaleRelay
