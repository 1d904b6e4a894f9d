import LocaleRelay.Lint
import LocaleRelay.Proofs.Conclusion
import LocaleRelay.Proofs.Files.Operations

/-!
# What linting leaves in its file

Both streams of the lint command lead to the end of one opened file. After what the file held come
all the bytes that the process wrote, to whichever stream, in the order in which it wrote them, and
whatever the result. The result tells only how the process ended, or that there was none.
-/

namespace LocaleRelay

open Files

/-- A process leaves a place of some files as it finds it. -/
def Course.Spares (course : Course) (place : Location) (files : FileSystem) : Prop :=
  (course.edit files).root.at? place = files.root.at? place

namespace LintConfig

variable {host : Host} {lint : LintConfig} {sink : Location} {content : ByteArray}
  {executable : Bool} {setting : Setting} {files : FileSystem} {launch : Launch}

/-- The line of the lint command is that of its configuration. -/
theorem line_command (lint : LintConfig) : lint.command.line = lint.commandLine := by
  have hread : Text.lossyText ∘ utf8 = id := funext Text.lossyText_utf8
  rw [Command.line, command, List.map_map, hread, List.map_id]
  rfl

/-- Linting concludes as its command does, and gives no answer but that it passed. -/
theorem concludes_run (host : Host) (lint : LintConfig) (sink : Location) (setting : Setting)
    (files : FileSystem) :
    lint.command.Concludes host setting.environment files (.file sink)
      (fun _ result => result = .ok ()) ((lint.run host sink).outcome setting files).effect := by
  unfold run
  rw [Attempt.effect_bind_idle (.log _ _ _ _)]
  refine Command.concludes_judged ?_ ?_ ?_
  · intro finished
    split
    · exact .lift (.log _ _ _ _)
    · exact .bind (.lift (.log _ _ _ _)) fun _ => .throw _
  · intro finished after hending
    rw [if_neg (fun h => hending (Ending.isSuccess_iff.mp h)), line_command]
    rfl
  · intro launch after _
    rfl

/-- What is left of linting into a file with some content. If the command is started, the content is
followed by all that was written to either stream, and linting passes exactly if the process exits
with zero; any other ending is told with the line of the command. Otherwise the content stays. -/
structure Lints (host : Host) (env : Environment) (files : FileSystem) (lint : LintConfig)
    (sink : Location) (content : ByteArray) (executable : Bool)
    (outcome : Outcome (Except ToolFailure Unit)) : Prop where
  starts : (∃ launch, lint.command.Starts env files launch) ∨ lint.command.CannotStart env files
  appended : ∀ launch, lint.command.Starts env files launch →
    outcome.files.root.at? sink =
      some (.file (content ++ Chunk.join (host launch).chunks) executable)
  passes : ∀ launch, lint.command.Starts env files launch →
    (outcome.value = .ok () ↔ (host launch).ending = .exited 0)
  fails : ∀ launch, lint.command.Starts env files launch → (host launch).ending ≠ .exited 0 →
    outcome.value = .error (.exit lint.commandLine (host launch).ending.code?)
  unstarted : lint.command.CannotStart env files →
    (∃ fault, outcome.value = .error (.launch lint.program fault)) ∧
      outcome.files.root.at? sink = some (.file content executable)

private theorem at?_leaves {course : Course}
    (hsink : files.root.at? sink = some (.file content executable))
    (hspares : course.Spares sink (files.appendAll sink (course.chunks.map (·.bytes)))) :
    (course.leaves (.file sink) files).root.at? sink =
      some (.file (content ++ Chunk.join course.chunks) executable) := by
  have happended := FileSystem.at?_appendAll hsink (course.chunks.map (·.bytes))
  rw [Chunk.foldl_bytes] at happended
  exact hspares.trans happended

/-- Linting adds to its file all that the lint command writes to both streams, in order, and passes
exactly if the command exits with zero, for every process that leaves the file alone otherwise. -/
theorem lints_run (host : Host) (lint : LintConfig) (setting : Setting)
    (hsink : files.root.at? sink = some (.file content executable))
    (hspares : ∀ launch, lint.command.Starts setting.environment files launch →
      (host launch).Spares sink (files.appendAll sink ((host launch).chunks.map (·.bytes)))) :
    Lints host setting.environment files lint sink content executable
      ((lint.run host sink).outcome setting files) := by
  have hrun := concludes_run host lint sink setting files
  exact {
    starts := lint.command.starts_or_cannotStart _ _
    appended := by
      intro launch h
      obtain ⟨hleft, -, -⟩ := hrun.of_starts h
      rw [← at?_leaves hsink (hspares launch h)]
      exact congrArg (fun left => left.1.root.at? sink) hleft
    passes := by
      intro launch h
      obtain ⟨-, hfailed, hcompleted⟩ := hrun.of_starts h
      refine ⟨fun hok => ?_, hcompleted⟩
      by_contra hne
      cases hok.symm.trans (hfailed hne)
    fails := by
      intro launch h
      rw [← line_command]
      exact (hrun.of_starts h).2.1
    unstarted := by
      intro hcannot
      obtain ⟨fault, heffect⟩ := hrun.of_cannotStart hcannot
      obtain ⟨hvalue, hfiles, -⟩ := Outcome.effect_eq_iff.mp heffect
      exact ⟨⟨fault, hvalue⟩, by rw [hfiles, hsink]⟩ }

/-- A command that writes to both streams in turn and exits with three. -/
theorem lints_run_failing :
    let host : Host := fun _ =>
      ⟨[⟨.output, "1\n".toUTF8⟩, ⟨.errors, "2\n".toUTF8⟩, ⟨.output, "3\n".toUTF8⟩], id, .exited 3⟩
    let lint : LintConfig := ⟨"make", ["lint"], utf8 "."⟩
    let setting : Setting := ⟨some (utf8 "/home/relay"), ⟨[]⟩, fun _ => 4096⟩
    let programs : Node := .directory [(utf8 "make", .file ByteArray.empty true)]
    let files : FileSystem := ⟨.directory [(utf8 "bin", programs),
      (utf8 "report", .file "header\n".toUTF8 false)], []⟩
    let sink : Location := [utf8 "report"]
    let outcome := (lint.run host sink).outcome setting files
    let launch : Launch := ⟨2, ["make", "lint"].map utf8, [], ⟨[]⟩⟩
    lint.command.Starts setting.environment files launch ∧
      Lints host setting.environment files lint sink "header\n".toUTF8 false outcome ∧
      outcome.files.root.at? sink = some (.file "header\n1\n2\n3\n".toUTF8 false) ∧
      outcome.value = .error (.exit "make lint" (some 3)) := by
  intro host lint setting programs files sink outcome launch
  have hstarts : lint.command.Starts setting.environment files launch :=
    Command.launch_eq_ok_iff.mp (by decide +kernel)
  have hsink : files.root.at? sink = some (.file "header\n".toUTF8 false) := rfl
  have hlints := lints_run host lint setting hsink fun _ _ => rfl
  refine ⟨hstarts, hlints, ?_, ?_⟩
  · rw [hlints.appended _ hstarts]
    rfl
  · exact hlints.fails _ hstarts (by decide)

end LintConfig

end LocaleRelay
