import LocaleRelay.Listing
import LocaleRelay.Pipeline.Tools
import LocaleRelay.Report

/-!
# A run

A run brings the working copy up to date, begins the status report with the commit, lints into the
report and, if it was asked to, publishes. Each stage starts only when the one before it is
complete; the first failure ends the run and is the run's result. The log names every stage that is
reached, and exactly one last stage.
-/

namespace LocaleRelay

open Files

/-- How far a run has come. -/
inductive Stage where
  | start
  | synced
  | reported
  | linted
  | published
  | skipped
  | failed
  deriving Repr, DecidableEq

/-- The name of a stage. -/
def Stage.name : Stage → String
  | start => "Start"
  | synced => "Synced"
  | reported => "Reported"
  | linted => "Linted"
  | published => "Published"
  | skipped => "Skipped"
  | failed => "Failed"

/-- Whether a run publishes. -/
inductive Publication where
  | publish
  | skip
  deriving Repr, DecidableEq

namespace Publication

/-- A run publishes if it was asked to and lint passed. -/
def decide (requested lintPassed : Bool) : Publication :=
  if requested && lintPassed then publish else skip

/-- The name of a decision. -/
def name : Publication → String
  | publish => "Publish"
  | skip => "Skip"

end Publication

/-- The result of a run that was completed, with the commit that was linted and the last stage. -/
structure RunReport where
  commit : String
  statusReport : RawPath
  publication : Publication
  stage : Stage
  deriving Repr, DecidableEq

/-- The result of a run with its fields named, as the log shows it. -/
def RunReport.structured (report : RunReport) : String :=
  "RunReport \x7b commit_hash: " ++ Text.quote report.commit ++ ", status_report: " ++
    Text.quotePath report.statusReport ++ ", publish: " ++ report.publication.name ++ ", stage: " ++
    report.stage.name ++ " \x7d"

namespace Run

/-- Log that a stage is reached. -/
def logStage (level : Level) (stage : Stage) (message : String) (fields : List Field) : Act Unit :=
  Act.log level .pipeline message (⟨"stage", .bare stage.name⟩ :: fields)

/-- Bring the working copy up to date: pull if there is one, else clone. -/
def acquire (config : Config) (tools : Tools) : Attempt RunFailure Unit := do
  let path := config.workingCopyPath
  let remote := config.sourceRemote
  let fields : List Field := [⟨"path", .bare (Text.lossyText path)⟩, ⟨"remote", .bare remote⟩]
  if ← tools.isRepository path then
    Act.log .info .pipeline "[PIPELINE][SYNC] Pulling existing working copy" fields
    (tools.pull path remote).mapFailure .sync
  else
    Act.log .info .pipeline "[PIPELINE][SYNC] No working copy, cloning" fields
    (tools.clone remote path).mapFailure .sync

/-- Begin the status report with the commit that is checked out. -/
def recordCommit (config : Config) (tools : Tools) : Attempt RunFailure String := do
  let commit ← (tools.headCommit config.workingCopyPath).mapFailure .sync
  Report.begin config.statusReportPath commit
  return commit

/-- Lint into the status report. -/
def lint (config : Config) (tools : Tools) : Attempt RunFailure Unit := do
  let sink ← Report.openAppend config.statusReportPath
  (tools.lint sink).mapFailure .lint

/-- Publish the working copy with the credentials for it. -/
def publish (config : Config) (tools : Tools) : Attempt RunFailure Unit := do
  if config.listHomeBeforePush then Listed.logHome
  let vars ← tools.credentials.mapFailure .publish
  (tools.push config.workingCopyPath config.deploymentRemote vars).mapFailure
    fun failure => .publish (.tool failure)

/-- Publish, or note that this was not asked for. -/
def conclude (config : Config) (tools : Tools) : Publication → Attempt RunFailure Stage
  | .publish => do
    publish config tools
    logStage .info .published "[PIPELINE] Published" [⟨"remote", .bare config.deploymentRemote⟩]
    return .published
  | .skip => do
    logStage .info .skipped "[PIPELINE] Publish not requested, skipping push" []
    return .skipped

/-- The stages of a run, one after the other. -/
def stages (config : Config) (tools : Tools) (requested : Bool) :
    Attempt RunFailure RunReport := do
  acquire config tools
  logStage .info .synced "[PIPELINE] Working copy is up to date" []
  let commit ← recordCommit config tools
  logStage .info .reported "[PIPELINE] Status report initialised" [⟨"hash", .bare commit⟩]
  lint config tools
  logStage .info .linted "[PIPELINE] Lint succeeded" []
  let publication := Publication.decide requested true
  let stage ← conclude config tools publication
  return { commit, statusReport := config.statusReportPath, publication, stage }

/-- Log the failure that ended a run. -/
def logFailure (failure : RunFailure) : Act Unit :=
  logStage .error .failed "[PIPELINE][ERROR] Run failed"
    [⟨"error", .bare failure.message⟩, ⟨"exit_code", .bare (toString failure.exitCode)⟩]

/-- A run from its first event to its last, outside its span. -/
def body (config : Config) (tools : Tools) (requested : Bool) :
    Act (Except RunFailure RunReport) := do
  logStage .info .start "[PIPELINE] Starting sync/lint/publish run" []
  let result ← (stages config tools requested).run
  if let .error failure := result then logFailure failure
  return result

/-- Run every stage once, up to the first failure. -/
def perform (config : Config) (tools : Tools) (requested : Bool) : Attempt RunFailure RunReport :=
  ExceptT.mk (Act.within ⟨requested⟩ (body config tools requested))

end Run

end LocaleRelay
