import LocaleRelay.Main
import LocaleRelay.Proofs.Utf8
import LocaleRelay.Proofs.Files.Tree
import LocaleRelay.Proofs.Files.Walk
import LocaleRelay.Proofs.Files.Ancestor
import LocaleRelay.Proofs.Files.Operations
import LocaleRelay.Proofs.Steps
import LocaleRelay.Proofs.Report
import LocaleRelay.Proofs.Entries
import LocaleRelay.Proofs.ToolEntries
import LocaleRelay.Proofs.Pipeline.Stages
import LocaleRelay.Proofs.Pipeline.RunEntries
import LocaleRelay.Proofs.Pipeline.Rows
import LocaleRelay.Proofs.Pipeline.History
import LocaleRelay.Proofs.Environment
import LocaleRelay.Proofs.Process
import LocaleRelay.Proofs.Repository
import LocaleRelay.Proofs.Pipeline.Processes
import LocaleRelay.Proofs.Session
import LocaleRelay.Proofs.ExitStatus
import LocaleRelay.Proofs.Pipeline.StageLog
import LocaleRelay.Proofs.Pipeline.Independence
import LocaleRelay.Proofs.Pipeline.Alike
import LocaleRelay.Proofs.Pipeline.Candor
import LocaleRelay.Proofs.Pipeline.HomeListing
import LocaleRelay.Proofs.Revisions
import LocaleRelay.Proofs.Heading
import LocaleRelay.Proofs.Pipeline.Provenance
import LocaleRelay.Proofs.ShellWords
import LocaleRelay.Proofs.KeyPath
import LocaleRelay.Proofs.Config.Content
import LocaleRelay.Proofs.Config.Fields
import LocaleRelay.Proofs.Config.Written
import LocaleRelay.Proofs.Pipeline.Publishing
import LocaleRelay.Proofs.Files.Names
import LocaleRelay.Proofs.Files.Unlinked
import LocaleRelay.Proofs.Files.Chain
import LocaleRelay.Proofs.Beginning
import LocaleRelay.Proofs.Arguments
import LocaleRelay.Proofs.Causes
import LocaleRelay.Proofs.FailureLog
import LocaleRelay.Proofs.Conclusion
import LocaleRelay.Proofs.Listing
import LocaleRelay.Proofs.Lint
import LocaleRelay.Proofs.VersionControl
