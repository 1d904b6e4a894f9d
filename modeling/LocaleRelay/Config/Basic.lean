import LocaleRelay.Action

/-!
# Configurations

Everything a run needs to know about its surroundings: where the working copy and the status report
are, the two remotes, the key, the lint command. Every entry has a built-in value, so an empty
configuration is a complete one.
-/

namespace LocaleRelay

open Files

/-- The lint command: a program with arguments, run in a directory. -/
structure LintConfig where
  program : String
  args : List String
  dir : RawPath
  deriving Repr, DecidableEq

namespace LintConfig

/-- The built-in lint command. -/
def builtIn : LintConfig := { program := "make", args := ["lint"], dir := utf8 "." }

/-- The lint command as one line. -/
def commandLine (lint : LintConfig) : String := LocaleRelay.commandLine lint.program lint.args

/-- The lint command with its fields named, as the log shows it. -/
def structured (lint : LintConfig) : String :=
  "LintConfig \x7b program: " ++ Text.quote lint.program ++
    ", args: " ++ Text.quoteList lint.args ++
    ", dir: " ++ Text.quotePath lint.dir ++ " \x7d"

end LintConfig

/-- The configuration of a run. Relative paths start from the program's working directory, and a
leading tilde of the key stands for the home directory. -/
structure Config where
  workingCopyPath : RawPath
  statusReportPath : RawPath
  sourceRemote : String
  deploymentRemote : String
  sshKeyPath : String
  lint : LintConfig
  listHomeBeforePush : Bool
  deriving Repr, DecidableEq

namespace Config

/-- The built-in configuration. -/
def builtIn : Config where
  workingCopyPath := utf8 "locale"
  statusReportPath := utf8 "media/postatus.txt"
  sourceRemote := "https://github.com/mozilla-l10n/sumo-l10n.git"
  deploymentRemote := "git@github.com:mozilla-l10n/sumo-l10n-prod.git"
  sshKeyPath := "~/.ssh/id_rsa-sumo-l10n-prod"
  lint := LintConfig.builtIn
  listHomeBeforePush := true

/-- A configuration with its fields named, as the log shows it. -/
def structured (config : Config) : String :=
  "PipelineConfig \x7b working_copy_path: " ++ Text.quotePath config.workingCopyPath ++
    ", status_report_path: " ++ Text.quotePath config.statusReportPath ++
    ", source_remote_url: " ++ Text.quote config.sourceRemote ++
    ", deployment_remote_url: " ++ Text.quote config.deploymentRemote ++
    ", ssh_key_path: " ++ Text.quote config.sshKeyPath ++
    ", lint: " ++ config.lint.structured ++
    ", list_home_before_push: " ++ toString config.listHomeBeforePush ++ " \x7d"

/-- Log a configuration: its main entries, and all of it in detail. -/
def logLoaded (config : Config) : Act Unit := do
  Act.log .info .config "Loaded Config" [
    ⟨"working_copy", .bare (Text.lossyText config.workingCopyPath)⟩,
    ⟨"status_report", .bare (Text.lossyText config.statusReportPath)⟩,
    ⟨"source_remote", .bare config.sourceRemote⟩,
    ⟨"deployment_remote", .bare config.deploymentRemote⟩,
    ⟨"lint", .bare config.lint.commandLine⟩]
  Act.log .debug .config "Config loaded (full debug)" [⟨"self", .bare config.structured⟩]

end Config

end LocaleRelay
