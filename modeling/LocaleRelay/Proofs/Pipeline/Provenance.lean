import LocaleRelay.Proofs.Entries
import LocaleRelay.Proofs.Heading
import LocaleRelay.Proofs.Pipeline.Processes
import LocaleRelay.Proofs.Revisions

/-!
# What the report of a completed run says

The processes of a run leave the report alone, but for what the lint command writes to it. The
report of a run that is completed is then the header for the commit that was told, and after it what
the lint command wrote. The report names that commit exactly if the commit is on one line: a commit
is what a process printed, without the white space at its two ends, and nothing keeps line feeds out
of its middle.
-/

namespace LocaleRelay

open Files FileSystem

/-! ### Trimmed texts -/

/-- A text that was trimmed does not end in white space. -/
theorem Text.isBlank_of_getLast?_trim {text : String} {c : Char}
    (h : (Text.trim text).toList.getLast? = some c) : Text.isBlank c = false :=
  (Text.trimmed_trim text).last c h

/-- A commit that was told by a process does not end in a carriage return. -/
theorem Course.getLast?_commitName (course : Course) :
    course.commitName.toList.getLast? ≠ some '\r' := by
  intro h
  have hblank := Text.isBlank_of_getLast?_trim h
  exact absurd hblank (by decide)

/-! ### Contents that name a commit -/

/-- What comes after the first line of a text. -/
def Text.afterLine (text : List Char) : List Char := (text.dropWhile (· ≠ '\n')).drop 1

/-- A line feed divides the first line from what comes after it. -/
theorem Text.afterLine_line {line : List Char} (h : '\n' ∉ line) (rest : List Char) :
    Text.afterLine (line ++ '\n' :: rest) = rest := by
  have hline : ∀ c ∈ line, decide (c ≠ '\n') = true := by
    intro c hc
    simpa using fun e : c = '\n' => h (e ▸ hc)
  rw [Text.afterLine, List.dropWhile_append_of_pos hline]
  simp

namespace Report

/-- A content names a commit as a report should: in the first line, before an empty one, so that
reading the first line back gives the commit. -/
structure Names (content commit : String) : Prop where
  first : Text.firstLine content.toList = label.toList ++ commit.toList
  second : Text.firstLine (Text.afterLine content.toList) = []
  recorded : recordedCommit? content = some commit

/-- What begins with a header names its commit exactly if that commit fits on a line. -/
theorem names_header_iff {commit output : String} :
    Names (header commit ++ output) commit ↔
      '\n' ∉ commit.toList ∧ commit.toList.getLast? ≠ some '\r' := by
  constructor
  · intro h
    have hrecorded := h.recorded
    rw [recordedCommit?_header, Option.some_inj] at hrecorded
    exact onOneLine_eq_self_iff.mp hrecorded
  · intro h
    have hself := onOneLine_eq_self_iff.mpr h
    have hline : '\n' ∉ (label ++ commit).toList := by
      rw [String.toList_append, List.mem_append, not_or]
      exact ⟨by decide, h.1⟩
    have htext : (header commit ++ output).toList =
        (label ++ commit).toList ++ '\n' :: '\n' :: output.toList := by
      simp [header]
    constructor
    case first => rw [firstLine_header, hself]
    case second =>
      rw [htext, Text.afterLine_line hline, ← List.nil_append ('\n' :: _),
        Text.firstLine_line List.not_mem_nil]
      rfl
    case recorded => rw [recordedCommit?_header, hself]

end Report

/-! ### Processes that leave a report alone -/

/-- A process leaves a report alone, whatever files it finds. -/
def Host.Spares (host : Host) (path : RawPath) (launch : Launch) : Prop :=
  ∀ files : FileSystem, Report.text? path (((host launch).edit files).within files.working) =
    Report.text? path files

/-- An attempt leaves a report alone, if its processes do. -/
def Attempt.Spares {ε α : Type} (host : Host) (path : RawPath) (attempt : Attempt ε α) : Prop :=
  ∀ setting files,
    (∀ launch ∈ Journal.launches (attempt.outcome setting files).entries, host.Spares path launch) →
      Report.text? path (attempt.outcome setting files).files = Report.text? path files

namespace Attempt.Spares

variable {ε δ α β : Type} {host : Host} {path : RawPath}

/-- An attempt that leaves the files as they are leaves a report alone. -/
theorem of_keeps {attempt : Attempt ε α} (h : attempt.Keeps) : attempt.Spares host path := by
  intro setting files _
  rw [h setting files]

/-- A result leaves a report alone. -/
theorem pure (a : α) : Spares host path (Pure.pure a : Attempt ε α) := of_keeps (.pure a)

/-- A failure leaves a report alone. -/
theorem throw (failure : ε) : Spares host path (throw failure : Attempt ε α) :=
  fun _ _ _ => rfl

/-- Logging leaves a report alone. -/
theorem log (level : Level) (source : Source) (message : String) (fields : List Field) :
    Spares (ε := ε) host path (liftM (Act.log level source message fields)) :=
  of_keeps (.lift fun _ _ => rfl)

/-- Attempts that leave a report alone do so one after the other. -/
theorem bind {first : Attempt ε α} {next : α → Attempt ε β} (hf : Spares host path first)
    (hn : ∀ a, Spares host path (next a)) : Spares host path (first >>= next) := by
  intro setting files hspares
  cases hv : (first.outcome setting files).value with
  | ok a =>
    rw [outcome_bind_ok hv] at hspares ⊢
    rw [Journal.launches_append] at hspares
    obtain ⟨hfirst, hnext⟩ := List.forall_mem_append.mp hspares
    exact (hn a setting _ hnext).trans (hf setting files hfirst)
  | error failure =>
    rw [outcome_bind_error hv] at hspares ⊢
    exact hf setting files hspares

/-- An attempt leaves a report alone, whatever its failure is told as. -/
theorem mapFailure {attempt : Attempt ε α} (f : ε → δ) (h : Spares host path attempt) :
    Spares host path (attempt.mapFailure f) := by
  intro setting files
  rw [outcome_mapFailure]
  exact h setting files

end Attempt.Spares

/-- What a command that is started leaves, and that its process is shown. -/
theorem files_execute {host : Host} {command : Command} {setting : Setting} {files : FileSystem}
    {launch : Launch} (destination : Destination)
    (h : command.launch setting.environment files = .ok launch) :
    ((execute host command destination).outcome setting files).files =
        (host launch).leaves destination files ∧
      launch ∈
        Journal.launches ((execute host command destination).outcome setting files).entries := by
  obtain ⟨-, hfiles, hlaunches⟩ := Outcome.effect_eq_iff.mp
    (effect_execute_started host destination (Command.launch_eq_ok_iff.mp h))
  exact ⟨hfiles, by simp [hlaunches]⟩

/-- What is started by the first of two attempts is started by both in a row. -/
theorem Attempt.launches_subset_bind {ε α β : Type} (first : Attempt ε α) (next : α → Attempt ε β)
    (setting : Setting) (files : FileSystem) :
    Journal.launches (first.outcome setting files).entries ⊆
      Journal.launches ((first >>= next).outcome setting files).entries := by
  cases hv : (first.outcome setting files).value with
  | ok a =>
    rw [outcome_bind_ok hv, Journal.launches_append]
    exact List.subset_append_left _ _
  | error failure =>
    rw [outcome_bind_error hv]
    exact List.Subset.refl _

/-- Of two attempts in a row the first one leaves the files, if the second one keeps them. -/
theorem Attempt.files_bind_of_keeps {ε α β : Type} (first : Attempt ε α) {next : α → Attempt ε β}
    (h : ∀ a, (next a).Keeps) (setting : Setting) (files : FileSystem) :
    ((first >>= next).outcome setting files).files = (first.outcome setting files).files := by
  cases hv : (first.outcome setting files).value with
  | ok a =>
    rw [outcome_bind_ok hv]
    exact h a _ _
  | error failure => rw [outcome_bind_error hv]

namespace Run

variable {config : Config} {host : Host} {requested : Bool} {setting : Setting}
  {files : FileSystem} {path : RawPath}

/-! ### After linting -/

/-- Running a command for its effect leaves a report alone, if its process does. -/
theorem spares_execute (command : Command) :
    (execute host command .terminal).Spares host path := by
  intro setting files hspares
  cases hl : command.launch setting.environment files with
  | error fault =>
    have hrun := outcome_execute host command .terminal setting files
    rw [hl] at hrun
    rw [hrun]
  | ok launch =>
    obtain ⟨hfiles, hmem⟩ := files_execute .terminal hl
    rw [hfiles]
    exact hspares launch hmem files

private theorem spares_run (number : Nat) (args : List (List UInt8)) (vars : Variables) :
    (Repository.run host number args vars).Spares host path := by
  unfold Repository.run
  refine .bind (.log _ _ _ _) fun _ => .bind ((spares_execute _).mapFailure _) fun finished => ?_
  split
  · exact .pure ()
  · exact .bind (.log _ _ _ _) fun _ => .throw _

private theorem spares_push (copy : RawPath) (remote : String) (vars : Variables) :
    (Repository.push host copy remote vars).Spares host path :=
  .bind (spares_run _ _ _) fun _ => .log _ _ _ _

/-- The last stage leaves a report alone, if its processes do. -/
theorem spares_conclude (publication : Publication) :
    (conclude config (config.tools host) publication).Spares host path := by
  have hcredentials : (config.tools host).credentials.Keeps := by
    intro setting files
    obtain ⟨entries, -, hkey⟩ := Credentials.outcome_ofKey config.sshKeyPath setting files
    exact congrArg Outcome.files hkey
  have hask : (ask config (config.tools host)).Spares host path :=
    .bind (.of_keeps (hcredentials.mapFailure _)) fun vars => (spares_push _ _ vars).mapFailure _
  have hpublish : (publish config (config.tools host)).Spares host path := by
    rw [publish_eq]
    split
    · have hlisting : Attempt.Keeps (ε := RunFailure) (liftM Listed.logHome) :=
        .lift fun setting files => (Listed.idle_logHome setting files).1
      exact .bind (.of_keeps hlisting) fun _ => hask
    · exact hask
  cases publication with
  | publish => exact .bind hpublish fun _ => .bind (.log _ _ _ _) fun _ => .pure _
  | skip => exact .bind (.log _ _ _ _) fun _ => .pure _

/-! ### Linting -/

/-- A lint command that passes was started, and its process did to the files what it does after its
output was added to them. -/
theorem files_lint {lint : LintConfig} {sink : Location}
    (h : ((lint.run host sink).outcome setting files).value = .ok ()) :
    ∃ launch, lint.command.launch setting.environment files = .ok launch ∧
      launch ∈ Journal.launches ((lint.run host sink).outcome setting files).entries ∧
      let written := files.appendAll sink ((host launch).chunks.map (·.bytes))
      ((lint.run host sink).outcome setting files).files =
        ((host launch).edit written).within written.working := by
  unfold LintConfig.run at h ⊢
  rw [Attempt.outcome_bind_ok (a := ()) rfl, Attempt.outcome_lift] at h ⊢
  obtain ⟨finished, hfinished, -⟩ := Attempt.value_bind_eq_ok h
  rw [Attempt.outcome_mapFailure] at hfinished
  obtain ⟨launch, hlaunch, -⟩ := execute_eq_ok (mapError_eq_ok hfinished)
  obtain ⟨hfiles, hmem⟩ := files_execute (.file sink) hlaunch
  refine ⟨launch, hlaunch, ?_, ?_⟩
  · rw [Journal.launches_append]
    refine List.mem_append_right _ (Attempt.launches_subset_bind _ _ _ _ ?_)
    rw [Attempt.outcome_mapFailure]
    exact hmem
  · refine (Attempt.files_bind_of_keeps _ (fun finished => ?_) _ _).trans ?_
    · split
      · exact .lift fun _ _ => rfl
      · exact .bind (.lift fun _ _ => rfl) fun _ _ _ => rfl
    · rw [Attempt.outcome_mapFailure]
      exact hfiles

/-- Linting writes after the header what the lint command writes, unless the report is a device. -/
theorem text?_linted {commit : String}
    (hr : (recorded config (config.tools host) setting files).value = .ok commit)
    (hl : (linted config (config.tools host) setting files).value = .ok ())
    (hspares : ∀ launch ∈
      Journal.launches (linted config (config.tools host) setting files).entries,
      host.Spares config.statusReportPath launch) :
    ∃ launch, config.lint.command.launch setting.environment
        (recorded config (config.tools host) setting files).files = .ok launch ∧
      ((∃ place device, (recorded config (config.tools host) setting files).files.lookup
          config.statusReportPath = .ok (place, .device device)) ∨
        Report.text? config.statusReportPath
            (linted config (config.tools host) setting files).files =
          some ((Report.header commit).toUTF8 ++ Chunk.join (host launch).chunks)) := by
  obtain ⟨place, node, hlookup, hwritten, hlinted⟩ := linted_eq hr
  rw [hlinted, Attempt.outcome_mapFailure] at hl hspares ⊢
  obtain ⟨launch, hlaunch, hmem, hfiles⟩ := files_lint (mapError_eq_ok hl)
  refine ⟨launch, hlaunch, ?_⟩
  rcases hwritten with ⟨executable, rfl⟩ | ⟨device, rfl⟩
  · right
    have hadded := differsOnly_appendAll (recorded config (config.tools host) setting files).files
      place ((host launch).chunks.map (·.bytes))
    have hat := at?_appendAll (at?_of_lookup hlookup) ((host launch).chunks.map (·.bytes))
    have hfound := lookup_of_grown hadded.grown hadded.working hlookup hat
    refine (congrArg _ hfiles).trans ((hspares launch hmem _).trans ?_)
    rw [← Chunk.foldl_bytes]
    exact fileContent?_eq_some_iff.mpr ⟨place, executable, hfound⟩
  · exact .inl ⟨place, device, hlookup⟩

/-! ### The run as a whole -/

private theorem launches_completed {commit : String} {stage : Stage}
    (hs : (synced config (config.tools host) setting files).value = .ok ())
    (hr : (recorded config (config.tools host) setting files).value = .ok commit)
    (hl : (linted config (config.tools host) setting files).value = .ok ())
    (hc : (concluded config (config.tools host) requested setting files).value = .ok stage) :
    Journal.launches
        ((perform config (config.tools host) requested).outcome setting files).entries =
      Journal.launches (synced config (config.tools host) setting files).entries ++
        (Journal.launches (recorded config (config.tools host) setting files).entries ++
          (Journal.launches (linted config (config.tools host) setting files).entries ++
            Journal.launches
              (concluded config (config.tools host) requested setting files).entries)) := by
  have hrow : Follows Entry.launch?
      ((perform config (config.tools host) requested).outcome setting files) _ :=
    follows_perform passesEvents_launch? (.self _ _) (.self _ _) (fun _ _ => .self _ _) (.self _ _)
  have hshown := hrow.shown
  simp only [Outcome.failure?, hs, hr, hl, hc, failureOf, List.cons_append, List.nil_append,
    Steps.shown_cons_none, Steps.shown_nil, List.append_nil] at hshown
  exact hshown

private theorem commitName_of_recorded {commit : String}
    (h : (recorded config (config.tools host) setting files).value = .ok commit) :
    ∃ launch, (Repository.headCommand config.workingCopyPath).launch setting.environment
        (synced config (config.tools host) setting files).files = .ok launch ∧
      commit = (host launch).commitName := by
  have hrecords := records_recordCommit config (config.tools host) setting
    (synced config (config.tools host) setting files).files
  rw [← recorded, h] at hrecords
  generalize (recorded config (config.tools host) setting files).files = begun at hrecords
  cases hrecords with
  | complete hc _ => exact Repository.headCommit_eq_ok hc

/-- In a run that is completed the report is the header for the commit that was told, and what the
lint command wrote, unless the report is a device. -/
theorem text?_completed {report : RunReport}
    (hrun : ((perform config (config.tools host) requested).outcome setting files).value =
      .ok report)
    (hspares : ∀ launch ∈ Journal.launches
      ((perform config (config.tools host) requested).outcome setting files).entries,
      host.Spares config.statusReportPath launch) :
    ∃ head lint,
      (Repository.headCommand config.workingCopyPath).launch setting.environment
        (synced config (config.tools host) setting files).files = .ok head ∧
      config.lint.command.launch setting.environment
        (recorded config (config.tools host) setting files).files = .ok lint ∧
      report.commit = (host head).commitName ∧
      ((∃ place device, (recorded config (config.tools host) setting files).files.lookup
          config.statusReportPath = .ok (place, .device device)) ∨
        Report.text? config.statusReportPath
            ((perform config (config.tools host) requested).outcome setting files).files =
          some ((Report.header report.commit).toUTF8 ++ Chunk.join (host lint).chunks)) := by
  have hends := ends_perform config (config.tools host) requested setting files
  rw [hrun] at hends
  generalize ((perform config (config.tools host) requested).outcome setting files).files =
    after at hends ⊢
  cases hends with
  | @complete commit stage hs hr hl hc =>
    rw [launches_completed hs hr hl hc] at hspares
    simp only [List.forall_mem_append] at hspares
    obtain ⟨-, -, hlint, hconclude⟩ := hspares
    obtain ⟨lint, hlaunch, htext⟩ := text?_linted hr hl hlint
    obtain ⟨head, hhead, hname⟩ := commitName_of_recorded hr
    refine ⟨head, lint, hhead, hlaunch, hname, htext.imp_right fun htext => ?_⟩
    exact (spares_conclude _ setting _ hconclude).trans htext

/-- A run that is completed leaves a report that can be read if the lint command wrote a text,
unless the report is a device. It names the commit of the run, in its first line and followed by an
empty one, exactly if that commit has no line feed. -/
theorem names_completed_iff {report : RunReport}
    (hrun : ((perform config (config.tools host) requested).outcome setting files).value =
      .ok report)
    (hspares : ∀ launch ∈ Journal.launches
      ((perform config (config.tools host) requested).outcome setting files).entries,
      host.Spares config.statusReportPath launch) :
    (∃ place device, (recorded config (config.tools host) setting files).files.lookup
        config.statusReportPath = .ok (place, .device device)) ∨
      ∃ head lint,
        (Repository.headCommand config.workingCopyPath).launch setting.environment
          (synced config (config.tools host) setting files).files = .ok head ∧
        config.lint.command.launch setting.environment
          (recorded config (config.tools host) setting files).files = .ok lint ∧
        report.commit = (host head).commitName ∧
        ∀ output : String, Chunk.join (host lint).chunks = output.toUTF8 →
          ((perform config (config.tools host) requested).outcome setting files).files.readText
              config.statusReportPath = .ok (Report.header report.commit ++ output) ∧
          (Report.Names (Report.header report.commit ++ output) report.commit ↔
            '\n' ∉ report.commit.toList) := by
  obtain ⟨head, lint, hhead, hlint, hname, hdevice | htext⟩ := text?_completed hrun hspares
  · exact .inl hdevice
  · refine .inr ⟨head, lint, hhead, hlint, hname, fun output houtput => ⟨?_, ?_⟩⟩
    · apply Report.readText_of_text?
      rw [htext, houtput]
      rfl
    · have hreturn : report.commit.toList.getLast? ≠ some '\r' := by
        rw [hname]
        exact Course.getLast?_commitName (host head)
      rw [Report.names_header_iff]
      exact and_iff_left hreturn

/-- A run whose commit is printed on two lines. It is completed, and the report names another
commit. -/
theorem not_names_completed_two_lines :
    let host : Host := fun launch =>
      ⟨match launch.number with
        | 1 => [⟨.output, "4f1c\n7a2e\n".toUTF8⟩]
        | 2 => [⟨.output, "OK\n".toUTF8⟩]
        | _ => [], id, .exited 0⟩
    let programs : Node := .directory
      [(utf8 "git", .file ByteArray.empty true), (utf8 "make", .file ByteArray.empty true)]
    let setting : Setting := ⟨some (utf8 "/home/relay"), ⟨[]⟩, fun _ => 4096⟩
    let files : FileSystem := ⟨.directory [(utf8 "bin", programs)], []⟩
    let run := (perform Config.builtIn (Config.builtIn.tools host) false).outcome setting files
    let path := utf8 "media/postatus.txt"
    let content := "l10n git hash: 4f1c\n7a2e\n\nOK\n"
    run.value = .ok ⟨"4f1c\n7a2e", path, .skip, .skipped⟩ ∧
      (∀ launch ∈ Journal.launches run.entries, host.Spares path launch) ∧
      run.files.readText path = .ok content ∧
      Report.recordedCommit? content = some "4f1c" ∧
      ¬ Report.Names content "4f1c\n7a2e" := by
  refine ⟨by decide +kernel, fun _ _ _ => rfl, by decide +kernel, by decide +kernel, fun h => ?_⟩
  exact absurd h.recorded (by decide +kernel)

/-- A run whose commit is printed with a carriage return and a line feed after it, and whose linter
writes what looks like a first line. -/
theorem names_completed_iff_returned :
    let host : Host := fun launch =>
      ⟨match launch.number with
        | 1 => [⟨.output, " 4f1c\r\n".toUTF8⟩]
        | 2 => [⟨.errors, "l10n git hash: ".toUTF8⟩, ⟨.output, "forged\n".toUTF8⟩]
        | _ => [], id, .exited 0⟩
    let programs : Node := .directory
      [(utf8 "git", .file ByteArray.empty true), (utf8 "make", .file ByteArray.empty true)]
    let setting : Setting := ⟨some (utf8 "/home/relay"), ⟨[]⟩, fun _ => 4096⟩
    let files : FileSystem := ⟨.directory [(utf8 "bin", programs)], []⟩
    let run := (perform Config.builtIn (Config.builtIn.tools host) false).outcome setting files
    let path := utf8 "media/postatus.txt"
    let content := Report.header "4f1c" ++ "l10n git hash: forged\n"
    run.value = .ok ⟨"4f1c", path, .skip, .skipped⟩ ∧
      (∀ launch ∈ Journal.launches run.entries, host.Spares path launch) ∧
      run.files.readText path = .ok content ∧
      Report.Names content "4f1c" := by
  intro host programs setting files run path content
  have hrun : run.value = .ok ⟨"4f1c", path, .skip, .skipped⟩ := by
    decide +kernel
  have hspares : ∀ launch ∈ Journal.launches run.entries,
      host.Spares path launch := fun _ _ _ => rfl
  have hfile : ((recorded Config.builtIn (Config.builtIn.tools host) setting
      files).files.fileContent? Config.builtIn.statusReportPath).isSome = true := by
    decide +kernel
  refine ⟨hrun, hspares, ?_⟩
  rcases names_completed_iff hrun hspares with ⟨place, device, hdevice⟩ |
    ⟨head, lint, -, hlint, -, hnames⟩
  · rw [fileContent?, hdevice] at hfile
    cases hfile
  · have houtput : Chunk.join (host lint).chunks = "l10n git hash: forged\n".toUTF8 := by
      simp only [host, (Command.launch_eq_ok hlint).1]
      decide +kernel
    obtain ⟨hread, hiff⟩ := hnames _ houtput
    exact ⟨hread, hiff.mpr (by decide)⟩

end Run

end LocaleRelay
