import LocaleRelay.Credentials
import LocaleRelay.Lint
import LocaleRelay.Repository

/-!
# The tools of a run

What a run asks of the world outside its own files: the version control system, the lint command
and the credentials. There are two kinds of tools: those that run processes, and scripted ones,
whose answers are given beforehand and which note every question in the journal.
-/

namespace LocaleRelay

open Files

/-- The tools that a run depends on. Linting writes at the end of an opened file. -/
structure Tools where
  isRepository : (path : RawPath) → Act Bool
  clone : (remote : String) → (path : RawPath) → Attempt ToolFailure Unit
  pull : (path : RawPath) → (remote : String) → Attempt ToolFailure Unit
  headCommit : (path : RawPath) → Attempt ToolFailure String
  lint : (sink : Location) → Attempt ToolFailure Unit
  credentials : Attempt PublishFailure Variables
  push : (path : RawPath) → (remote : String) → (vars : Variables) → Attempt ToolFailure Unit

/-- The tools of a configuration, which run processes on a host. -/
def Config.tools (config : Config) (host : Host) : Tools where
  isRepository := Repository.isRepository
  clone := Repository.clone host
  pull := Repository.pull host
  headCommit := Repository.headCommit host
  lint := config.lint.run host
  credentials := Credentials.ofKey config.sshKeyPath
  push := Repository.push host

/-- Answers for all the questions of a run, and what linting writes. -/
structure Script where
  isRepository : Bool
  clone : Except ToolFailure Unit
  pull : Except ToolFailure Unit
  head : Except ToolFailure String
  lintOutput : ByteArray
  lint : Except ToolFailure Unit
  credentials : Except PublishFailure Variables
  push : Except ToolFailure Unit

namespace Script

/-- Note a question and give the answer to it. -/
def answer {ε α : Type} (request : Request) (given : Except ε α) : Attempt ε α := do
  Act.record (.request request)
  ExceptT.mk (return given)

/-- The tools that answer as a script says. -/
def tools (script : Script) : Tools where
  isRepository path := do
    Act.record (.request (.isRepository path))
    return script.isRepository
  clone remote path := answer (.clone remote path) script.clone
  pull path remote := answer (.pull path remote) script.pull
  headCommit path := answer (.headCommit path) script.head
  lint sink := do
    Act.record (.request .lint)
    Act.setFiles ((← Act.files).appendAll sink [script.lintOutput])
    ExceptT.mk (return script.lint)
  credentials := answer .credentials script.credentials
  push path remote vars := answer (.push path remote vars) script.push

end Script

end LocaleRelay
