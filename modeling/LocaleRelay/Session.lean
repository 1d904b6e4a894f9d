import LocaleRelay.Arguments
import LocaleRelay.Config.Load
import LocaleRelay.Pipeline.Run

/-!
# Sessions

One use of the program, from its arguments to its exit status: load the configuration, run once, and
report how it ended. The log goes to the error stream, what the tools print to the streams that they
print to.
-/

namespace LocaleRelay

/-- Why a session did not complete: its configuration could not be loaded, or its run failed. -/
inductive SessionFailure where
  | config (failure : ConfigFailure)
  | run (failure : RunFailure)
  deriving Repr, DecidableEq

namespace SessionFailure

/-- The message of a failed session. -/
def message : SessionFailure → String
  | config failure => failure.message
  | run failure => failure.message

/-- The messages of what caused a failed session. -/
def causes : SessionFailure → List String
  | config failure => failure.causes
  | run failure => failure.causes

/-- The exit status for a failed session. -/
def exitCode : SessionFailure → Nat
  | config _ => 1
  | run failure => failure.exitCode

/-- The message of a failed session and of all its causes on one line. -/
def joined (failure : SessionFailure) : String :=
  ": ".intercalate (failure.message :: failure.causes)

end SessionFailure

namespace Session

/-- Log how the run of a session ended. -/
def logEnd : Except RunFailure RunReport → Act Unit
  | .ok report =>
    Act.log .info .session "Run complete"
      [⟨"command", .quoted "sync"⟩, ⟨"report", .bare report.structured⟩]
  | .error failure =>
    Act.log .error .session "Run failed"
      [⟨"command", .quoted "sync"⟩, ⟨"error", .bare failure.message⟩]

/-- Load the configuration and run once with tools that run processes on a host. -/
def perform (host : Host) (path : Option String) (push : Bool) :
    Attempt SessionFailure RunReport := do
  Act.log .info .session "run_started" [⟨"push", .bare (toString push)⟩]
  let config ← (Config.loadOrBuiltIn path).mapFailure .config
  config.logLoaded
  let result ← (Run.perform config (config.tools host) push).run
  logEnd result
  match result with
  | .ok report => return report
  | .error failure => throw (.run failure)

end Session

namespace Program

/-- Log how a session ended, and give its exit status. -/
def conclude : Except SessionFailure RunReport → Act Nat
  | .ok _ => do
    Act.log .info .program "CLI completed successfully" []
    return 0
  | .error failure => do
    Act.log .error .program "CLI exited with error" [⟨"error", .bare failure.joined⟩]
    return failure.exitCode

/-- The program: from its arguments to its exit status. -/
def perform (host : Host) (arguments : List String) : Act Nat :=
  match Arguments.read arguments with
  | .error stop => do
    Act.record (.terminal .output stop.output.toUTF8)
    return stop.exitCode
  | .ok options => do
    Act.log .info .program "CLI arguments parsed, invoking run" []
    conclude (← (Session.perform host options.config options.push).run)

/-- Whether the log shows an event: details only if the arguments ask for them. -/
def shows (arguments : List String) (event : Event) : Bool :=
  match Arguments.read arguments with
  | .error _ => false
  | .ok options => options.verbose || !event.isDetail

/-- What an entry sends to the error stream: the line of an event after a stamp, or what a process
writes there. -/
def errorBytes? (stamp : String) (arguments : List String) : Entry → Option ByteArray
  | .event event =>
    if shows arguments event then some (stamp ++ event.line ++ "\n").toUTF8 else none
  | entry => entry.terminal? .errors

/-- What goes to the error stream: the log, each line after a stamp, and between its lines what the
processes write. -/
def errorOutput (stamp : String) (arguments : List String) (entries : List Entry) : ByteArray :=
  (entries.filterMap (errorBytes? stamp arguments)).foldl (· ++ ·) ByteArray.empty

end Program

end LocaleRelay
