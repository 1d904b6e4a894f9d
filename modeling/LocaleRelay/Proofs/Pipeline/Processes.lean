import LocaleRelay.Proofs.Pipeline.Rows
import LocaleRelay.Proofs.Repository

/-!
# The processes of a run

With the tools of a configuration a run starts four processes at most: the version control system
to clone or pull, the same to tell the commit, the lint command, and the version control system to
publish. Each starts only after the one before it ended well, and only the last one is given a
variable.
-/

namespace LocaleRelay.Run

open Files FileSystem

variable {config : Config} {host : Host} {requested : Bool} {setting : Setting}
  {files : FileSystem}

/-! ### The row of a run -/

/-- Whether a run finds a working copy. -/
def findsCopy (config : Config) (files : FileSystem) : Bool :=
  files.reaches (Path.join config.workingCopyPath (utf8 ".git"))

/-- The command that brings the working copy up to date. -/
def syncCommand (config : Config) (present : Bool) : Command :=
  if present then Repository.pullCommand config.workingCopyPath config.sourceRemote
  else Repository.cloneCommand config.sourceRemote config.workingCopyPath

/-- What is done before that command: a clone is given a directory to lie in. -/
def prepare (config : Config) (present : Bool) : Attempt ToolFailure Unit :=
  if present then pure () else Repository.makeParent config.workingCopyPath

/-- The command that publishes, with the key of a configuration. -/
def publishCommand (config : Config) (setting : Setting) : Command :=
  Repository.pushCommand config.workingCopyPath config.deploymentRemote
    (Credentials.vars (Credentials.keyPath setting.home config.sshKeyPath))

/-- What telling the commit leaves. -/
def headed (config : Config) (host : Host) (setting : Setting) (files : FileSystem) :
    Outcome (Except ToolFailure String) :=
  (Repository.headCommit host config.workingCopyPath).outcome setting
    (synced config (config.tools host) setting files).files

/-- The failure to begin the report, if it comes to that. -/
def beginFailure (config : Config) (host : Host) (setting : Setting) (files : FileSystem) :
    Option RunFailure :=
  (headed config host setting files).value.toOption.bind fun commit =>
    ((Report.begin config.statusReportPath commit).outcome setting
      (headed config host setting files).files).failure?

/-- The steps of a run up to the beginning of the report. -/
def openingSteps (config : Config) (host : Host) (setting : Setting) (files : FileSystem) :
    List (Step RunFailure Launch) :=
  let present := findsCopy config files
  let prepared := (prepare config present).outcome setting files
  [⟨[], prepared.failure?.map .sync⟩,
    ((syncCommand config present).step host setting.environment prepared.files).mapFailure .sync,
    (Repository.headStep host setting.environment (synced config (config.tools host) setting
      files).files config.workingCopyPath).mapFailure .sync,
    ⟨[], beginFailure config host setting files⟩]

/-- The step of linting. -/
def lintStep (config : Config) (host : Host) (setting : Setting) (files : FileSystem) :
    Step RunFailure Launch :=
  (config.lint.command.step host setting.environment
    (recorded config (config.tools host) setting files).files).mapFailure .lint

/-- The steps of a run up to the end of linting. -/
def lintedSteps (config : Config) (host : Host) (setting : Setting) (files : FileSystem) :
    List (Step RunFailure Launch) :=
  openingSteps config host setting files ++ [lintStep config host setting files]

/-- The step of finding the key. -/
def keyStep (config : Config) (host : Host) (setting : Setting) (files : FileSystem) :
    Step RunFailure Launch :=
  Step.mapFailure .publish
    ⟨[], if (linted config (config.tools host) setting files).files.isFile
        (Credentials.keyPath setting.home config.sshKeyPath) then none
      else some (.keyNotFound (Credentials.keyPath setting.home config.sshKeyPath))⟩

/-- The step of publishing. -/
def publishStep (config : Config) (host : Host) (setting : Setting) (files : FileSystem) :
    Step RunFailure Launch :=
  ((publishCommand config setting).step host setting.environment
    (linted config (config.tools host) setting files).files).mapFailure
      fun failure => .publish (.tool failure)

/-- The steps of a run after linting, none unless it was asked to publish. -/
def publishSteps (config : Config) (host : Host) (requested : Bool) (setting : Setting)
    (files : FileSystem) : List (Step RunFailure Launch) :=
  if requested then [keyStep config host setting files, publishStep config host setting files]
  else []

/-- The steps of a run, seen by the processes that it starts. -/
def processSteps (config : Config) (host : Host) (requested : Bool) (setting : Setting)
    (files : FileSystem) : List (Step RunFailure Launch) :=
  lintedSteps config host setting files ++ publishSteps config host requested setting files

private theorem follows_synced :
    Follows Entry.launch? (synced config (config.tools host) setting files)
      ((openingSteps config host setting files).take 2) := by
  have hsync : Follows Entry.launch?
      ((sync config (config.tools host) (findsCopy config files)).outcome setting files)
      [⟨[], ((prepare config (findsCopy config files)).outcome setting files).failure?⟩,
        (syncCommand config (findsCopy config files)).step host setting.environment
          ((prepare config (findsCopy config files)).outcome setting files).files] := by
    unfold sync prepare syncCommand
    cases findsCopy config files with
    | true => exact .cons_idle (Repository.follows_pull _ _ _ _ _)
    | false => exact Repository.follows_clone _ _ _ _ _
  have hpresent : Follows (ε := RunFailure) Entry.launch? (Attempt.outcome
      (liftM ((config.tools host).isRepository config.workingCopyPath)) setting files) [] :=
    .silent rfl
  exact follows_acquire passesEvents_launch? hpresent hsync

private theorem follows_recorded :
    Follows Entry.launch? (recorded config (config.tools host) setting files)
      ((openingSteps config host setting files).drop 2) := by
  have hhead : Follows Entry.launch? (((config.tools host).headCommit
      config.workingCopyPath).outcome setting
        (synced config (config.tools host) setting files).files)
      [Repository.headStep host setting.environment
        (synced config (config.tools host) setting files).files config.workingCopyPath] :=
    Repository.follows_headCommit host config.workingCopyPath setting _
  refine follows_recordCommit passesEvents_launch? hhead fun commit hcommit => ?_
  have hheaded : (headed config host setting files).value = .ok commit := hcommit
  rw [beginFailure, hheaded]
  rfl

private theorem follows_linted {commit : String}
    (h : (recorded config (config.tools host) setting files).value = .ok commit) :
    Follows Entry.launch? (linted config (config.tools host) setting files)
      [lintStep config host setting files] := by
  obtain ⟨place, node, -, -, hlinted⟩ := linted_eq h
  rw [hlinted]
  exact (LintConfig.follows_run host config.lint place setting _).mapFailure RunFailure.lint

/-- With the key that was found, publishing is one step. -/
theorem follows_push_of_credentials {vars : Variables}
    (h : ((config.tools host).credentials.outcome setting files).value = .ok vars) :
    Follows Entry.launch? (((config.tools host).push config.workingCopyPath
        config.deploymentRemote vars).outcome setting
          ((config.tools host).credentials.outcome setting files).files)
      [(publishCommand config setting).step host setting.environment files] := by
  obtain ⟨entries, hevents, hkey⟩ := Credentials.outcome_ofKey config.sshKeyPath setting files
  have hcred : (config.tools host).credentials.outcome setting files = _ := hkey
  rw [hcred] at h ⊢
  dsimp only at h ⊢
  split at h
  · cases h
    exact Repository.follows_push _ _ _ _ _ _
  · cases h

private theorem follows_concluded :
    Follows Entry.launch? (concluded config (config.tools host) requested setting files)
      (publishSteps config host requested setting files) :=
  follows_conclude passesEvents_launch? (Credentials.follows_ofKey config.sshKeyPath setting _)
    fun _ hvars => follows_push_of_credentials hvars

/-- The processes of a run are its row. -/
theorem follows_processSteps (config : Config) (host : Host) (requested : Bool) (setting : Setting)
    (files : FileSystem) :
    Follows Entry.launch? ((perform config (config.tools host) requested).outcome setting files)
      (processSteps config host requested setting files) :=
  follows_perform passesEvents_launch? follows_synced follows_recorded
    (fun _ hcommit => follows_linted hcommit) follows_concluded

/-! ### Where and with what the processes run -/

private theorem headCommit_working :
    (headed config host setting files).files.working =
      (synced config (config.tools host) setting files).files.working :=
  Repository.stays_headCommit host config.workingCopyPath setting _

private theorem prepared_working (present : Bool) :
    ((prepare config present).outcome setting files).files.working = files.working := by
  unfold prepare
  cases present with
  | true => rfl
  | false => exact Repository.stays_makeParent config.workingCopyPath setting files

private theorem synced_working :
    (synced config (config.tools host) setting files).files.working = files.working := by
  obtain ⟨-, hfiles⟩ := synced_eq config (config.tools host) setting files
  rw [hfiles]
  show ((sync config (config.tools host) (findsCopy config files)).outcome setting
    files).files.working = files.working
  unfold sync
  cases findsCopy config files with
  | true => exact Repository.stays_pull host _ _ setting files
  | false => exact Repository.stays_clone host _ _ setting files

private theorem recorded_working :
    (recorded config (config.tools host) setting files).files.working = files.working := by
  have hrecords := records_recordCommit config (config.tools host) setting
    (synced config (config.tools host) setting files).files
  rw [← recorded] at hrecords
  have hbegun : ∀ commit, ((Report.begin config.statusReportPath commit).outcome setting
      (headed config host setting files).files).files.working = files.working := by
    intro commit
    have hbegin := Report.differsOnly_begin config.statusReportPath commit setting
      (headed config host setting files).files
    rw [hbegin.working, headCommit_working, synced_working]
  generalize (recorded config (config.tools host) setting files).value = value at hrecords
  generalize (recorded config (config.tools host) setting files).files = after at hrecords
  cases hrecords with
  | head _ => exact headCommit_working.trans synced_working
  | begin _ _ => exact hbegun _
  | complete _ _ => exact hbegun _

private theorem linted_working :
    (linted config (config.tools host) setting files).files.working = files.working := by
  have hopen : (Report.openAppend config.statusReportPath).Stays := by
    refine .bind (.lift fun _ _ => rfl) fun files => ?_
    split
    · exact .pure _
    · exact .throw _
  have hlint : (lint config (config.tools host)).Stays :=
    .bind hopen fun sink => .mapFailure _ (LintConfig.stays_run host config.lint sink)
  exact (hlint setting _).trans recorded_working

/-- A process of the version control system, in the directory that the program works in. -/
def IsGit (number : Nat) (args : List (List UInt8)) (environment : Environment)
    (files : FileSystem) (launch : Launch) : Prop :=
  launch.number = number ∧ launch.argv = utf8 "git" :: args ∧ launch.directory = files.working ∧
    launch.environment = environment

/-- The process that brings the working copy up to date. -/
def IsSync (config : Config) (setting : Setting) (files : FileSystem) (launch : Launch) : Prop :=
  IsGit 0 (if files.reaches (Path.join config.workingCopyPath (utf8 ".git"))
    then [utf8 "-C", config.workingCopyPath, utf8 "pull", utf8 "--ff-only",
      utf8 config.sourceRemote]
    else [utf8 "clone", utf8 config.sourceRemote, config.workingCopyPath])
      setting.environment files launch

/-- The process that tells the commit. -/
def IsHead (config : Config) (setting : Setting) (files : FileSystem) (launch : Launch) : Prop :=
  IsGit 1 [utf8 "-C", config.workingCopyPath, utf8 "rev-parse", utf8 "HEAD"] setting.environment
    files launch

/-- The process that lints, in the directory that is configured for it when linting begins. -/
def IsLint (config : Config) (setting : Setting) (begun : FileSystem) (launch : Launch) : Prop :=
  launch.number = 2 ∧ launch.argv = (config.lint.program :: config.lint.args).map utf8 ∧
    Command.findDirectory begun (some config.lint.dir) = .ok launch.directory ∧
    launch.environment = setting.environment

/-- The process that publishes. It alone is given a variable, with the key that is configured. -/
def IsPush (config : Config) (setting : Setting) (files : FileSystem) (launch : Launch) : Prop :=
  let connect := Credentials.connectCommand (Credentials.keyPath setting.home config.sshKeyPath)
  IsGit 3 [utf8 "-C", config.workingCopyPath, utf8 "push", utf8 config.deploymentRemote,
      utf8 "HEAD"] (setting.environment.set "GIT_SSH_COMMAND" connect) files launch ∧
    launch.environment.get? "GIT_SSH_COMMAND" = some connect

/-- The processes of a run, one after the other. -/
def processOutline (config : Config) (host : Host) (setting : Setting) (files : FileSystem) :
    List (Launch → Prop) :=
  [IsSync config setting files, IsHead config setting files,
    IsLint config setting (recorded config (config.tools host) setting files).files,
    IsPush config setting files]

private theorem isGit_of_launch {number : Nat} {args : List (List UInt8)} {vars : Variables}
    {env : Environment} {before : FileSystem} {launch : Launch}
    (hw : before.working = files.working)
    (h : (Repository.command number args vars).launch env before = .ok launch) :
    IsGit number args (env.apply vars) files launch := by
  obtain ⟨hnumber, hargv, hdirectory, henv⟩ := Command.launch_eq_ok h
  refine ⟨hnumber, hargv, ?_, henv⟩
  rw [← hw]
  exact (Except.ok.inj hdirectory).symm

private theorem isSync_of_launch {launch : Launch} {before : FileSystem}
    (hw : before.working = files.working)
    (h : (syncCommand config (findsCopy config files)).launch setting.environment before =
      .ok launch) : IsSync config setting files launch := by
  unfold syncCommand findsCopy at h
  unfold IsSync
  split
  · next hcopy =>
    rw [if_pos hcopy] at h
    exact isGit_of_launch hw h
  · next hcopy =>
    rw [if_neg hcopy] at h
    exact isGit_of_launch hw h

/-- The command that publishes starts the process that publishes. -/
theorem isPush_of_launch {launch : Launch} {before : FileSystem}
    (hw : before.working = files.working)
    (h : (publishCommand config setting).launch setting.environment before = .ok launch) :
    IsPush config setting files launch := by
  have hgit := isGit_of_launch hw h
  have hname : '=' ∉ "GIT_SSH_COMMAND".toList := by decide
  refine ⟨hgit, ?_⟩
  rw [hgit.2.2.2]
  exact Environment.get?_set hname _ _

/-! ### What is known of the processes -/

private theorem fills_openingSteps :
    List.Forall₂ Step.Fills (openingSteps config host setting files)
    [[], [IsSync config setting files], [IsHead config setting files], []] := by
  refine .cons (Step.fills_nil _) (.cons ?_ (.cons ?_ (.cons (Step.fills_nil _) .nil)))
  · exact ((Command.runs_step _ _ _ _).mapFailure _).fills fun _ h =>
      isSync_of_launch (prepared_working _) h
  · exact ((Repository.runs_headStep _ _ _ _).mapFailure _).fills fun _ h =>
      isGit_of_launch synced_working h

private theorem runs_lintStep : Runs host setting.environment
    (recorded config (config.tools host) setting files).files config.lint.command
    (lintStep config host setting files) := (Command.runs_step _ _ _ _).mapFailure _

private theorem fills_lintedSteps : List.Forall₂ Step.Fills (lintedSteps config host setting files)
    [[], [IsSync config setting files], [IsHead config setting files], [],
      [IsLint config setting (recorded config (config.tools host) setting files).files]] := by
  refine List.rel_append fills_openingSteps (.cons ?_ .nil)
  exact runs_lintStep.fills fun _ h => Command.launch_eq_ok h

private theorem runs_publishStep : Runs host setting.environment
    (linted config (config.tools host) setting files).files (publishCommand config setting)
    (publishStep config host setting files) := (Command.runs_step _ _ _ _).mapFailure _

private theorem fills_publishSteps :
    List.Forall₂ Step.Fills (publishSteps config host true setting files)
      [[], [IsPush config setting files]] := by
  refine .cons (Step.fills_nil _) (.cons ?_ .nil)
  exact runs_publishStep.fills fun _ h => isPush_of_launch linted_working h

private theorem fits_processSteps :
    Fits (Steps.shown (processSteps config host requested setting files))
      (processOutline config host setting files) := by
  unfold processSteps
  cases requested with
  | false =>
    show Fits (Steps.shown (lintedSteps config host setting files ++ [])) _
    rw [List.append_nil]
    exact (Steps.fits_shown fills_lintedSteps).append_right [IsPush config setting files]
  | true => exact Steps.fits_shown (List.rel_append fills_lintedSteps fills_publishSteps)

private theorem settles_lintedSteps :
    ∀ step ∈ lintedSteps config host setting files,
      step.Settles fun launch => (host launch).ending = .exited 0 := by
  unfold lintedSteps openingSteps
  simp only [List.cons_append, List.nil_append, List.forall_mem_cons]
  refine ⟨Step.settles_nil _ _, ?_, ?_, Step.settles_nil _ _, runs_lintStep.settles,
    List.forall_mem_nil _⟩
  · exact (Command.runs_step _ _ _ _).settles.mapFailure _
  · exact (Repository.runs_headStep _ _ _ _).settles.mapFailure _

/-- Before a further process of a run the one before it ended well. -/
theorem settles_processSteps :
    ∀ step ∈ processSteps config host requested setting files,
      step.Settles fun launch => (host launch).ending = .exited 0 := by
  unfold processSteps publishSteps
  rw [List.forall_mem_append]
  refine ⟨settles_lintedSteps, ?_⟩
  cases requested with
  | false => exact List.forall_mem_nil _
  | true =>
    simp only [if_true, List.forall_mem_cons]
    exact ⟨Step.settles_nil _ _, runs_publishStep.settles, List.forall_mem_nil _⟩

/-- What is so once linting is complete, after three processes: all of them ended well, the second
one printed more than white space, and the report was begun with what it printed. -/
structure Prepared (config : Config) (host : Host) (setting : Setting) (files : FileSystem)
    (first second third : Launch) : Prop where
  ended : ∀ launch ∈ [first, second, third], (host launch).ending = .exited 0
  printed :
    Text.isBlankText (Text.lossyText (Chunk.output (host second).chunks).data.toList) = false
  begun : ((Report.begin config.statusReportPath (host second).commitName).outcome setting
    (headed config host setting files).files).value = .ok ()

private theorem commitName_ne_empty_iff {course : Course} : course.commitName ≠ "" ↔
    Text.isBlankText (Text.lossyText (Chunk.output course.chunks).data.toList) = false := by
  rw [Ne, Course.commitName, Repository.commitName, Text.trim_eq_empty_iff, Bool.not_eq_true]

private theorem headed_eq_ok {launch : Launch}
    (hl : (Repository.headCommand config.workingCopyPath).launch setting.environment
      (synced config (config.tools host) setting files).files = .ok launch)
    (h : (Repository.headStep host setting.environment (synced config (config.tools host) setting
      files).files config.workingCopyPath).failure = none) :
    (headed config host setting files).value = .ok (host launch).commitName := by
  have hfollows := Repository.follows_headCommit host config.workingCopyPath setting
    (synced config (config.tools host) setting files).files
  have hnone : (headed config host setting files).failure? = none := by
    apply hfollows.failure.trans
    rw [Steps.failure?_eq_none_iff]
    simpa using h
  obtain ⟨commit, hcommit⟩ := failureOf_eq_none_iff.mp hnone
  obtain ⟨launch', hl', hname⟩ := Repository.headCommit_eq_ok hcommit
  rw [hl] at hl'
  cases hl'
  rw [hcommit, hname]

private theorem beginFailure_eq_none_iff {commit : String}
    (h : (headed config host setting files).value = .ok commit) :
    beginFailure config host setting files = none ↔
      ((Report.begin config.statusReportPath commit).outcome setting
        (headed config host setting files).files).value = .ok () := by
  rw [beginFailure, h]
  exact failureOf_eq_none_iff.trans ⟨fun ⟨_, hok⟩ => hok, fun hok => ⟨(), hok⟩⟩

private theorem prepared_of_lintedSteps
    (h : Steps.failure? (lintedSteps config host setting files) = none) :
    ∃ first second third, Steps.shown (lintedSteps config host setting files) =
      [first, second, third] ∧ Prepared config host setting files first second third := by
  obtain ⟨hshown, hnone⟩ := Steps.eq_of_failure?_eq_none h
  simp only [lintedSteps, openingSteps, List.cons_append, List.nil_append,
    List.forall_mem_cons] at hnone
  obtain ⟨-, hsync, hhead, hbegin, hlint, -⟩ := hnone
  obtain ⟨first, hfirst, hfirst'⟩ := ((Command.runs_step _ _ _ _).mapFailure _).ends hsync
  obtain ⟨third, hthird, hthird'⟩ := runs_lintStep.ends hlint
  replace hhead := Option.map_eq_none_iff.mp hhead
  obtain ⟨second, hsecond, hsecond', hprinted⟩ := Repository.headStep_failure_eq_none_iff.mp hhead
  refine ⟨first, second, third, ?_, ?_, ?_, ?_⟩
  · rw [hshown]
    simp [lintedSteps, openingSteps, lintStep, Step.mapFailure, Command.step, Repository.headStep,
      hfirst, hsecond, hthird, Except.toOption]
  · simp [hfirst', hsecond', hthird']
  · exact commitName_ne_empty_iff.mp hprinted
  · exact (beginFailure_eq_none_iff (headed_eq_ok hsecond hhead)).mp hbegin

private theorem failure?_lintedSteps {first second third : Launch}
    (h : Steps.shown (lintedSteps config host setting files) = [first, second, third])
    (hthird : (host third).ending = .exited 0) :
    Steps.failure? (lintedSteps config host setting files) = none := by
  have hlong : 2 < (Steps.shown (openingSteps config host setting files ++
      [lintStep config host setting files])).length := by
    rw [← lintedSteps, h]
    exact Nat.lt_succ_self 2
  have hopening : Steps.failure? (openingSteps config host setting files) = none :=
    Steps.failure?_eq_none_of_length_lt fills_openingSteps hlong
  have htwo : (Steps.shown (openingSteps config host setting files)).length = 2 :=
    Steps.length_shown fills_openingSteps hopening
  have hshown : Steps.shown (openingSteps config host setting files) ++
      (lintStep config host setting files).shows = [first, second] ++ [third] := by
    rw [lintedSteps, Steps.shown_append, hopening, Steps.shown_singleton] at h
    exact h
  have hlast : third ∈ (lintStep config host setting files).shows := by
    rw [(List.append_inj hshown htwo).2]
    exact List.mem_singleton_self third
  have hlaunch := runs_lintStep.launch_of_mem_shows hlast
  have hlint : (lintStep config host setting files).failure = none :=
    Option.map_eq_none_iff.mpr (Command.failure?_eq_none_iff.mpr ⟨third, hlaunch, hthird⟩)
  rw [lintedSteps, Steps.failure?_append, hopening, Option.none_or, Steps.failure?_eq_none_iff]
  simpa using hlint

private theorem shown_publishSteps :
    Steps.shown (publishSteps config host true setting files) =
      if (linted config (config.tools host) setting files).files.isFile
          (Credentials.keyPath setting.home config.sshKeyPath) then
        ((publishCommand config setting).launch setting.environment
          (linted config (config.tools host) setting files).files).toOption.toList
      else [] := by
  show Steps.shown [keyStep config host setting files, publishStep config host setting files] = _
  rw [keyStep]
  split
  · rw [Step.mapFailure, Option.map_none, Steps.shown_cons_none, Steps.shown_singleton,
      runs_publishStep.shows]
    rfl
  · rw [Step.mapFailure, Option.map_some, Steps.shown_cons_some]

private theorem length_shown_processSteps_iff :
    (Steps.shown (processSteps config host requested setting files)).length = 4 ↔
      requested = true ∧ Steps.failure? (lintedSteps config host setting files) = none ∧
      (linted config (config.tools host) setting files).files.isFile
        (Credentials.keyPath setting.home config.sshKeyPath) = true ∧
      ∃ launch, (publishCommand config setting).launch setting.environment
        (linted config (config.tools host) setting files).files = .ok launch := by
  have hlength : Steps.failure? (lintedSteps config host setting files) = none →
      (Steps.shown (processSteps config host requested setting files)).length =
        3 + (Steps.shown (publishSteps config host requested setting files)).length := by
    intro hlinted
    have hthree := Steps.length_shown fills_lintedSteps hlinted
    rw [processSteps, Steps.shown_append, hlinted]
    dsimp only
    rw [List.length_append, hthree]
    rfl
  constructor
  · intro hfour
    have hlong : 3 < (Steps.shown (processSteps config host requested setting files)).length := by
      omega
    have hlinted : Steps.failure? (lintedSteps config host setting files) = none :=
      Steps.failure?_eq_none_of_length_lt fills_lintedSteps hlong
    rw [hlength hlinted] at hfour
    cases requested with
    | false => cases hfour
    | true =>
      refine ⟨rfl, hlinted, ?_⟩
      rw [shown_publishSteps] at hfour
      split at hfour
      · next hkey =>
        refine ⟨hkey, ?_⟩
        cases hl : (publishCommand config setting).launch setting.environment
            (linted config (config.tools host) setting files).files with
        | error fault =>
          rw [hl] at hfour
          cases hfour
        | ok launch => exact ⟨launch, rfl⟩
      · cases hfour
  · rintro ⟨rfl, hlinted, hkey, launch, hlaunch⟩
    rw [hlength hlinted, shown_publishSteps, if_pos hkey, hlaunch]
    rfl

/-- The processes of a run: which they are and in which order, that each is started only after
those before it ended well, and when a run goes as far as to publish. -/
structure Starts (config : Config) (host : Host) (requested : Bool) (setting : Setting)
    (files : FileSystem) (launches : List Launch) : Prop where
  order : Fits launches (processOutline config host setting files)
  earlier : launches.Pairwise fun earlier _ => (host earlier).ending = .exited 0
  push_iff : launches.length = 4 ↔ requested = true ∧
    (∃ first second third, launches.take 3 = [first, second, third] ∧
      Prepared config host setting files first second third) ∧
    (linted config (config.tools host) setting files).files.isFile
      (Credentials.keyPath setting.home config.sshKeyPath) = true ∧
    ∃ launch, (publishCommand config setting).launch setting.environment
      (linted config (config.tools host) setting files).files = .ok launch

/-- Whatever the processes do, those that a run starts are a beginning of four: bringing the working
copy up to date, telling the commit, linting and publishing. -/
theorem starts_perform (config : Config) (host : Host) (requested : Bool) (setting : Setting)
    (files : FileSystem) :
    Starts config host requested setting files
      (Journal.launches
        ((perform config (config.tools host) requested).outcome setting files).entries) := by
  have hshown : Journal.launches
      ((perform config (config.tools host) requested).outcome setting files).entries =
        Steps.shown (processSteps config host requested setting files) :=
    (follows_processSteps config host requested setting files).shown
  have htake : (Steps.shown (processSteps config host requested setting files)).take 3 =
      Steps.shown (lintedSteps config host setting files) :=
    Steps.take_shown_append (Steps.fits_shown fills_lintedSteps).length_le
      (Steps.length_shown fills_lintedSteps)
  rw [hshown]
  constructor
  case order => exact fits_processSteps
  case earlier => exact Steps.pairwise_shown settles_processSteps
  case push_iff =>
    rw [length_shown_processSteps_iff, htake]
    constructor
    · rintro ⟨hrequested, hlinted, hkey, hlaunch⟩
      exact ⟨hrequested, prepared_of_lintedSteps hlinted, hkey, hlaunch⟩
    · rintro ⟨hrequested, ⟨first, second, third, hthree, hprepared⟩, hkey, hlaunch⟩
      have hthird : (host third).ending = .exited 0 := hprepared.ended third (by simp)
      exact ⟨hrequested, failure?_lintedSteps hthree hthird, hkey, hlaunch⟩

/-- The processes of a run are numbered in the order in which they are started, so a host that
answers to their numbers can let each of them end in its own way. -/
theorem numbered_perform (config : Config) (host : Host) (requested : Bool) (setting : Setting)
    (files : FileSystem) :
    (Journal.launches ((perform config (config.tools host) requested).outcome setting
      files).entries).map Launch.number <+: [0, 1, 2, 3] := by
  have hshown : Journal.launches
      ((perform config (config.tools host) requested).outcome setting files).entries =
        Steps.shown (processSteps config host requested setting files) :=
    (follows_processSteps config host requested setting files).shown
  rw [hshown]
  refine fits_processSteps.map_prefix (.cons ?_ (.cons ?_ (.cons ?_ (.cons ?_ .nil))))
  · exact fun _ hsync => hsync.1
  · exact fun _ hhead => hhead.1
  · exact fun _ hlint => hlint.1
  · exact fun _ hpush => hpush.1.1

end LocaleRelay.Run
