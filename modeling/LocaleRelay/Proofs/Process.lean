import LocaleRelay.Proofs.Environment
import LocaleRelay.Proofs.Lint
import LocaleRelay.Repository

/-!
# Running a command as a step

Running a command is one step: it shows the process if one is started, and it fails if none is, or
if the process ends badly.
-/

namespace LocaleRelay

open Files

/-! ### Processes -/

variable {host : Host} {command : Command} {destination : Destination} {setting : Setting}
  {files : FileSystem}

private theorem run_deliver (chunks : List Chunk) (destination : Destination) (setting : Setting)
    (files : FileSystem) :
    ((deliver chunks destination).run setting files).entries.filterMap Entry.launch? = [] ∧
      ((deliver chunks destination).run setting files).files.working = files.working := by
  obtain ⟨-, hfiles, hlaunches⟩ := Outcome.effect_eq_iff.mp
    (effect_deliver chunks destination setting files)
  refine ⟨hlaunches, ?_⟩
  rw [hfiles]
  cases destination with
  | terminal => rfl
  | kept => rfl
  | file place => exact (FileSystem.differsOnly_appendAll files place _).working

/-- What running a command leaves: a fault if no process is started, else how the process ended. -/
theorem outcome_execute (host : Host) (command : Command) (destination : Destination)
    (setting : Setting) (files : FileSystem) :
    match command.launch setting.environment files with
    | .error fault =>
      (execute host command destination).outcome setting files = ⟨.error fault, files, []⟩
    | .ok launch => ∃ output after entries,
      (execute host command destination).outcome setting files =
        ⟨.ok ⟨output, (host launch).ending⟩, after, .launch launch :: entries⟩ ∧
      after.working = files.working ∧ entries.filterMap Entry.launch? = [] ∧
      (destination = .kept → output = Chunk.output (host launch).chunks) := by
  split
  · next fault h =>
    unfold execute
    simp [Attempt.outcome_bind, h]
  · next launch h =>
    obtain ⟨hentries, hworking⟩ := run_deliver (host launch).chunks destination setting files
    refine ⟨((deliver (host launch).chunks destination).run setting files).value,
      ((host launch).edit
        ((deliver (host launch).chunks destination).run setting files).files).within
        ((deliver (host launch).chunks destination).run setting files).files.working,
      ((deliver (host launch).chunks destination).run setting files).entries, ?_, hworking,
      hentries, ?_⟩
    · unfold execute
      simp [Attempt.outcome_bind, h, -bind_pure_comp]
    · rintro rfl
      rfl

/-- Running a command is a step that shows the process, if one is started. -/
theorem follows_execute (host : Host) (command : Command) (destination : Destination)
    (setting : Setting) (files : FileSystem) :
    Follows Entry.launch? ((execute host command destination).outcome setting files)
      [⟨(command.launch setting.environment files).toOption.toList,
        failureOf (command.launch setting.environment files)⟩] := by
  have hrun := outcome_execute host command destination setting files
  cases hl : command.launch setting.environment files with
  | error fault =>
    rw [hl] at hrun
    rw [hrun]
    exact ⟨rfl, rfl⟩
  | ok launch =>
    rw [hl] at hrun
    obtain ⟨output, after, entries, ho, -, hentries, -⟩ := hrun
    rw [ho]
    refine ⟨?_, rfl⟩
    simp [failureOf, Entry.launch?, hentries, Except.toOption]

/-- A command that was run to its end was started, and its process ended so. -/
theorem execute_eq_ok {finished : Finished}
    (h : ((execute host command destination).outcome setting files).value = .ok finished) :
    ∃ launch, command.launch setting.environment files = .ok launch ∧
      finished.ending = (host launch).ending ∧
      (destination = .kept → finished.output = Chunk.output (host launch).chunks) := by
  have hrun := outcome_execute host command destination setting files
  cases hl : command.launch setting.environment files with
  | error fault =>
    rw [hl] at hrun
    rw [hrun] at h
    cases h
  | ok launch =>
    rw [hl] at hrun
    obtain ⟨output, after, entries, ho, -, -, houtput⟩ := hrun
    rw [ho] at h
    cases h
    exact ⟨launch, rfl, rfl, houtput⟩

/-- Processes leave the program in the directory that it works in. -/
theorem working_execute (host : Host) (command : Command) (destination : Destination)
    (setting : Setting) (files : FileSystem) :
    ((execute host command destination).outcome setting files).files.working = files.working := by
  have hrun := outcome_execute host command destination setting files
  split at hrun
  · rw [hrun]
  · obtain ⟨output, after, entries, ho, hworking, -⟩ := hrun
    rw [ho, hworking]

/-! ### Commands that are run for their effect -/

/-- The failure of a command that is run for its effect. -/
def Command.failure? (host : Host) (env : Environment) (files : FileSystem) (command : Command) :
    Option ToolFailure :=
  match command.launch env files with
  | .error fault => some (.launch command.program fault)
  | .ok launch =>
    if (host launch).ending.isSuccess then none
    else some (.exit command.line (host launch).ending.code?)

/-- The step of a command that is run for its effect. -/
def Command.step (host : Host) (env : Environment) (files : FileSystem) (command : Command) :
    Step ToolFailure Launch :=
  ⟨(command.launch env files).toOption.toList, command.failure? host env files⟩

private theorem follows_judged {α : Type} {next : Finished → Attempt ToolFailure α}
    {judge : Launch → Option ToolFailure}
    (hn : ∀ launch finished after, command.launch setting.environment files = .ok launch →
      finished.ending = (host launch).ending →
      (destination = .kept → finished.output = Chunk.output (host launch).chunks) →
      Follows Entry.launch? ((next finished).outcome setting after) [⟨[], judge launch⟩]) :
    Follows Entry.launch?
      (((execute host command destination).mapFailure (.launch command.program) >>= next).outcome
        setting files)
      [⟨(command.launch setting.environment files).toOption.toList,
        match command.launch setting.environment files with
        | .error fault => some (.launch command.program fault)
        | .ok launch => judge launch⟩] := by
  have hrow : Follows Entry.launch?
      (((execute host command destination).mapFailure (.launch command.program) >>= next).outcome
        setting files)
      ([(⟨(command.launch setting.environment files).toOption.toList,
        failureOf (command.launch setting.environment files)⟩ : Step Fault Launch)].map
          (Step.mapFailure (.launch command.program)) ++
        [⟨[], match command.launch setting.environment files with
          | .error _ => none
          | .ok launch => judge launch⟩]) := by
    refine .bind_mapFailure _ (follows_execute _ _ _ _ _) fun finished hfinished => ?_
    obtain ⟨launch, hl, hending, houtput⟩ := execute_eq_ok hfinished
    rw [hl]
    exact hn launch finished _ hl hending houtput
  have hmerged := hrow.merge
  cases hl : command.launch setting.environment files with
  | error fault =>
    rw [hl] at hmerged
    exact hmerged
  | ok launch =>
    rw [hl] at hmerged
    exact hmerged

private theorem follows_idle {ε α : Type} (a : α) :
    Follows (ε := ε) Entry.launch? ((pure a : Attempt ε α).outcome setting files) [⟨[], none⟩] :=
  ⟨rfl, rfl⟩

private theorem follows_throw {ε α : Type} (failure : ε) :
    Follows Entry.launch? ((throw failure : Attempt ε α).outcome setting files)
      [⟨[], some failure⟩] := ⟨rfl, rfl⟩

/-- The version control program run for its effect is one step. -/
theorem Repository.follows_run (host : Host) (number : Nat) (args : List (List UInt8))
    (changes : Variables) (setting : Setting) (files : FileSystem) :
    Follows Entry.launch? ((Repository.run host number args changes).outcome setting files)
      [(Repository.command number args changes).step host setting.environment files] := by
  unfold Repository.run
  refine passesEvents_launch?.bind_log (follows_judged fun launch finished after _ hending _ => ?_)
  rw [hending]
  split
  · exact follows_idle ()
  · exact passesEvents_launch?.bind_log (follows_throw _)

/-- The lint command is one step. -/
theorem LintConfig.follows_run (host : Host) (lint : LintConfig) (sink : Location)
    (setting : Setting) (files : FileSystem) :
    Follows Entry.launch? ((lint.run host sink).outcome setting files)
      [lint.command.step host setting.environment files] := by
  unfold LintConfig.run
  refine passesEvents_launch?.bind_log (follows_judged fun launch finished after _ hending _ => ?_)
  rw [hending]
  split
  · exact ⟨rfl, rfl⟩
  · rw [← line_command]
    exact passesEvents_launch?.bind_log (follows_throw _)

/-- The command that asks for the commit that is checked out. -/
def Repository.headCommand (path : RawPath) : Command :=
  Repository.command 1 [utf8 "-C", path, utf8 "rev-parse", utf8 "HEAD"] .none

/-- The name of a commit that a process prints. -/
def Course.commitName (course : Course) : String :=
  Repository.commitName (Chunk.output course.chunks)

/-- The step of asking for the commit, which fails without the name of one too. -/
def Repository.headStep (host : Host) (env : Environment) (files : FileSystem) (path : RawPath) :
    Step ToolFailure Launch :=
  ⟨((headCommand path).launch env files).toOption.toList,
    match (headCommand path).launch env files with
    | .error fault => some (.launch program fault)
    | .ok launch =>
      if (host launch).ending.isSuccess then
        if (host launch).commitName.isEmpty then
          some (.unusable (headCommand path).line "empty commit identifier")
        else none
      else some (.exit (headCommand path).line (host launch).ending.code?)⟩

/-- Asking for the commit is one step. -/
theorem Repository.follows_headCommit (host : Host) (path : RawPath) (setting : Setting)
    (files : FileSystem) :
    Follows Entry.launch? ((Repository.headCommit host path).outcome setting files)
      [headStep host setting.environment files path] := by
  unfold Repository.headCommit
  refine follows_judged fun launch finished after _ hending houtput => ?_
  rw [hending, houtput rfl]
  by_cases hs : (host launch).ending.isSuccess = true
  · rw [if_pos hs, if_pos hs]
    unfold Course.commitName
    by_cases hempty : (Repository.commitName (Chunk.output (host launch).chunks)).isEmpty = true
    · dsimp only
      rw [if_pos hempty, if_pos hempty]
      exact follows_throw _
    · dsimp only
      rw [if_neg hempty, if_neg hempty]
      exact follows_idle _
  · rw [if_neg hs, if_neg hs]
    exact follows_throw _

/-- A commit that was told is the name that its process printed. -/
theorem Repository.headCommit_eq_ok {path : RawPath} {commit : String}
    (h : ((Repository.headCommit host path).outcome setting files).value = .ok commit) :
    ∃ launch, (headCommand path).launch setting.environment files = .ok launch ∧
      commit = (host launch).commitName := by
  unfold Repository.headCommit at h
  obtain ⟨finished, hfinished, h⟩ := Attempt.value_bind_eq_ok h
  rw [Attempt.outcome_mapFailure] at hfinished
  obtain ⟨launch, hl, -, houtput⟩ := execute_eq_ok (mapError_eq_ok hfinished)
  refine ⟨launch, hl, ?_⟩
  rw [Course.commitName, ← houtput rfl]
  dsimp only at h
  split at h
  · split at h
    · cases h
    · rw [Attempt.outcome_pure] at h
      exact (Except.ok.inj h).symm
  · cases h

/-! ### What the steps of commands show -/

/-- A process that was started is the one that its command describes. -/
theorem Command.launch_eq_ok {env : Environment} {launch : Launch}
    (h : command.launch env files = .ok launch) :
    launch.number = command.number ∧ launch.argv = utf8 command.program :: command.args ∧
      Command.findDirectory files command.directory = .ok launch.directory ∧
      launch.environment = env.apply command.vars := by
  have hstarts := Command.launch_eq_ok_iff.mp h
  exact ⟨hstarts.number, hstarts.argv, Command.findDirectory_eq_ok_iff.mpr hstarts.directory,
    hstarts.environment⟩

/-- A step shows the process of a command, if one is started, and fails unless it ends well. -/
structure Runs {ε : Type} (host : Host) (env : Environment) (files : FileSystem)
    (command : Command) (step : Step ε Launch) : Prop where
  shows : step.shows = (command.launch env files).toOption.toList
  ends : step.failure = none →
    ∃ launch, command.launch env files = .ok launch ∧ (host launch).ending = .exited 0

namespace Runs

variable {ε δ : Type} {env : Environment} {step : Step ε Launch}

/-- A step runs a command whatever its failure is told as. -/
theorem mapFailure (h : Runs host env files command step) (f : ε → δ) :
    Runs host env files command (step.mapFailure f) :=
  ⟨h.shows, fun hn => h.ends (Option.map_eq_none_iff.mp hn)⟩

/-- Before a further process the one of a command ended well. -/
theorem settles (h : Runs host env files command step) :
    step.Settles fun launch => (host launch).ending = .exited 0 := by
  constructor
  · rw [h.shows]
    cases command.launch env files <;> simp [Except.toOption]
  · intro hn other hother
    obtain ⟨launch, hl, hending⟩ := h.ends hn
    rw [h.shows, hl] at hother
    rw [List.mem_singleton.mp hother]
    exact hending

/-- A process that is shown was started by the command. -/
theorem launch_of_mem_shows (h : Runs host env files command step) {launch : Launch}
    (hm : launch ∈ step.shows) : command.launch env files = .ok launch := by
  rw [h.shows] at hm
  cases hl : command.launch env files with
  | error fault =>
    rw [hl] at hm
    cases hm
  | ok launch' =>
    rw [hl] at hm
    rw [List.mem_singleton.mp hm]

/-- What a command starts is what an outline says of its processes. -/
theorem fills (h : Runs host env files command step) {p : Launch → Prop}
    (hp : ∀ launch, command.launch env files = .ok launch → p launch) : step.Fills [p] := by
  constructor
  · rw [h.shows]
    cases hl : command.launch env files with
    | error fault => exact .nil
    | ok launch => exact .cons (hp launch hl) .nil
  · intro hn
    obtain ⟨launch, hl, -⟩ := h.ends hn
    rw [h.shows, hl]
    rfl

end Runs

/-- A command that is run for its effect does not fail if its process ends well. -/
theorem Command.failure?_eq_none_iff {env : Environment} :
    command.failure? host env files = none ↔
      ∃ launch, command.launch env files = .ok launch ∧ (host launch).ending = .exited 0 := by
  unfold failure?
  cases command.launch env files with
  | error fault => simp
  | ok launch => simp [Ending.isSuccess]

/-- The step of a command runs it. -/
theorem Command.runs_step (host : Host) (env : Environment) (files : FileSystem)
    (command : Command) : Runs host env files command (command.step host env files) :=
  ⟨rfl, Command.failure?_eq_none_iff.mp⟩

/-- Asking for the commit does not fail if its process ends well and prints a name. -/
theorem Repository.headStep_failure_eq_none_iff {env : Environment} {path : RawPath} :
    (headStep host env files path).failure = none ↔
      ∃ launch, (headCommand path).launch env files = .ok launch ∧
        (host launch).ending = .exited 0 ∧ (host launch).commitName ≠ "" := by
  unfold headStep
  cases (headCommand path).launch env files with
  | error fault => simp
  | ok launch =>
    by_cases hs : (host launch).ending = .exited 0
    · by_cases hempty : (host launch).commitName = "" <;> simp [Ending.isSuccess, hs, hempty]
    · simp [Ending.isSuccess, hs]

/-- Asking for the commit runs its command. -/
theorem Repository.runs_headStep (host : Host) (env : Environment) (files : FileSystem)
    (path : RawPath) : Runs host env files (headCommand path) (headStep host env files path) := by
  refine ⟨rfl, fun hn => ?_⟩
  obtain ⟨launch, hl, hending, -⟩ := headStep_failure_eq_none_iff.mp hn
  exact ⟨launch, hl, hending⟩

end LocaleRelay
