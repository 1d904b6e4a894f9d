import LocaleRelay.Proofs.Pipeline.Processes
import LocaleRelay.Proofs.Session

/-!
# The exit status

The exit status of the program tells a failed run from a complete one. It is the status of the
process that ended the run where that is one, and never zero for a failure: a status beyond the
range of a failing process, a signal, and a failure without a process are all told as one.
-/

namespace LocaleRelay

open Files FileSystem

/-! ### The status for a failure -/

/-- The status that tells how a process failed: its own if a failing process can have it, else
one. -/
def reportedStatus : Option Int → Nat
  | some code => if 1 ≤ code ∧ code ≤ 255 then code.toNat else 1
  | none => 1

/-- A status that tells a failure. It is the one that a process ended with where there is one in the
range of a failing process, else one. -/
structure IsStatusFor (code? : Option Int) (status : Nat) : Prop where
  positive : 1 ≤ status
  small : status ≤ 255
  same : ∀ code : Int, code? = some code → 1 ≤ code → code ≤ 255 → (status : Int) = code
  other : (∀ code : Int, code? = some code → ¬ (1 ≤ code ∧ code ≤ 255)) → status = 1

private theorem reportedStatus_of_range {code : Int} (h : 1 ≤ code ∧ code ≤ 255) :
    (reportedStatus (some code) : Int) = code := by
  rw [reportedStatus, if_pos h]
  omega

private theorem reportedStatus_of_not_range {code? : Option Int}
    (h : ∀ code : Int, code? = some code → ¬ (1 ≤ code ∧ code ≤ 255)) :
    reportedStatus code? = 1 := by
  cases code? with
  | none => rfl
  | some code => rw [reportedStatus, if_neg (h code rfl)]

private theorem isStatusFor_reportedStatus (code? : Option Int) :
    IsStatusFor code? (reportedStatus code?) := by
  by_cases h : ∃ code : Int, code? = some code ∧ 1 ≤ code ∧ code ≤ 255
  · obtain ⟨code, rfl, hrange⟩ := h
    have hstatus := reportedStatus_of_range hrange
    constructor
    case positive => omega
    case small => omega
    case same =>
      intro code' hcode _ _
      cases hcode
      exact hstatus
    case other =>
      intro hother
      exact absurd hrange (hother code rfl)
  · have hother : ∀ code : Int, code? = some code → ¬ (1 ≤ code ∧ code ≤ 255) :=
      fun code hcode hrange => h ⟨code, hcode, hrange⟩
    have hstatus := reportedStatus_of_not_range hother
    constructor
    case positive => omega
    case small => omega
    case same =>
      intro code hcode hlow hhigh
      exact absurd ⟨hlow, hhigh⟩ (hother code hcode)
    case other => exact fun _ => hstatus

/-- The status that a tool ended with, if it ended badly by itself. -/
def ToolFailure.code? : ToolFailure → Option Int
  | exit _ code => code
  | launch _ _ | unusable _ _ => none

/-- The tool that made a run fail, if one did. -/
def RunFailure.tool? : RunFailure → Option ToolFailure
  | sync failure | lint failure | publish (.tool failure) => some failure
  | write _ _ | publish (.keyNotFound _) => none

private theorem ToolFailure.exitCode_eq (failure : ToolFailure) :
    failure.exitCode = reportedStatus failure.code? := by
  cases failure with
  | launch program fault => rfl
  | exit command code => cases code <;> rfl
  | unusable command reason => rfl

private theorem RunFailure.exitCode_eq (failure : RunFailure) :
    failure.exitCode = reportedStatus (failure.tool?.bind ToolFailure.code?) := by
  cases failure with
  | sync failure => exact failure.exitCode_eq
  | write path fault => rfl
  | lint failure => exact failure.exitCode_eq
  | publish failure =>
    cases failure with
    | keyNotFound path => rfl
    | tool failure => exact failure.exitCode_eq

/-- The exit status for a failed run tells how the tool behind the failure ended. -/
theorem RunFailure.isStatusFor_exitCode (failure : RunFailure) :
    IsStatusFor (failure.tool?.bind ToolFailure.code?) failure.exitCode := by
  rw [failure.exitCode_eq]
  exact isStatusFor_reportedStatus _

/-! ### The process that a status is about -/

/-- The first process that did not end well. -/
def Host.firstFailed? (host : Host) (launches : List Launch) : Option Launch :=
  launches.find? fun launch => !(host launch).ending.isSuccess

/-- The status that tells how the first process that did not end well did end. -/
def Host.statusOf (host : Host) (launches : List Launch) : Nat :=
  reportedStatus ((host.firstFailed? launches).bind fun launch => (host launch).ending.code?)

/-- A step whose failure is told by the status that is due to what it shows. -/
def Step.Tells {ε : Type} (host : Host) (status : ε → Nat) (step : Step ε Launch) : Prop :=
  ∀ failure, step.failure = some failure → status failure = host.statusOf step.shows

namespace Step.Tells

variable {ε δ : Type} {host : Host} {status : ε → Nat} {step : Step ε Launch}

private theorem mapFailure {other : δ → Nat} {f : ε → δ}
    (hf : ∀ failure, other (f failure) = status failure) (h : step.Tells host status) :
    (step.mapFailure f).Tells host other := by
  intro failure hfailure
  obtain ⟨reason, hreason, rfl⟩ := Option.map_eq_some_iff.mp hfailure
  rw [hf]
  exact h reason hreason

private theorem silent {failure? : Option ε}
    (h : ∀ failure, failure? = some failure → status failure = 1) :
    Step.Tells host status ⟨[], failure?⟩ := h

end Step.Tells

section

variable {host : Host} {env : Environment} {files : FileSystem}

private theorem statusOf_singleton (host : Host) (launch : Launch) :
    host.statusOf [launch] =
      if (host launch).ending.isSuccess then 1 else reportedStatus (host launch).ending.code? := by
  rw [Host.statusOf, Host.firstFailed?, List.find?_singleton]
  cases (host launch).ending.isSuccess <;> rfl

private theorem Command.tells_step (host : Host) (env : Environment) (files : FileSystem)
    (command : Command) : (command.step host env files).Tells host ToolFailure.exitCode := by
  intro failure hfailure
  unfold step Command.failure? at hfailure
  unfold step
  cases hl : command.launch env files with
  | error fault =>
    rw [hl] at hfailure
    cases hfailure
    rfl
  | ok launch =>
    rw [hl] at hfailure
    dsimp only at hfailure
    split at hfailure
    · cases hfailure
    · next hbad =>
      cases hfailure
      show _ = host.statusOf [launch]
      rw [statusOf_singleton, if_neg hbad]
      exact ToolFailure.exitCode_eq _

private theorem Repository.tells_headStep (host : Host) (env : Environment) (files : FileSystem)
    (path : RawPath) : (headStep host env files path).Tells host ToolFailure.exitCode := by
  intro failure hfailure
  unfold headStep at hfailure ⊢
  cases hl : (headCommand path).launch env files with
  | error fault =>
    rw [hl] at hfailure
    cases hfailure
    rfl
  | ok launch =>
    rw [hl] at hfailure
    dsimp only at hfailure
    show _ = host.statusOf [launch]
    rw [statusOf_singleton]
    split at hfailure
    · next hgood =>
      rw [if_pos hgood]
      split at hfailure
      · cases hfailure
        rfl
      · cases hfailure
    · next hbad =>
      rw [if_neg hbad]
      cases hfailure
      exact ToolFailure.exitCode_eq _

end

/-! ### The status for a failed run -/

private theorem exitCode_eq_statusOf {host : Host} {steps : List (Step RunFailure Launch)}
    {failure : RunFailure}
    (hs : ∀ step ∈ steps, step.Settles fun launch => (host launch).ending = .exited 0)
    (ht : ∀ step ∈ steps, step.Tells host RunFailure.exitCode)
    (h : Steps.failure? steps = some failure) :
    failure.exitCode = host.statusOf (Steps.shown steps) := by
  obtain ⟨before, step, after, rfl, hbefore, hstep, hshown⟩ := Steps.eq_of_failure?_eq_some h
  have hsettles : ∀ other ∈ before, other.Settles fun launch => (host launch).ending = .exited 0 :=
    fun other hmem => hs other (List.mem_append_left _ hmem)
  have hgood := Steps.good_of_failure?_eq_none hsettles hbefore
  have hnone : host.firstFailed? (Steps.shown before) = none := by
    rw [Host.firstFailed?, List.find?_eq_none]
    intro launch hmem
    rw [hgood launch hmem]
    decide
  have hfirst : host.firstFailed? (Steps.shown before ++ step.shows) =
      host.firstFailed? step.shows := by
    rw [Host.firstFailed?, List.find?_append]
    rw [Host.firstFailed?] at hnone
    rw [hnone, Option.none_or]
    rfl
  rw [ht step (List.mem_append_right _ List.mem_cons_self) failure hstep, hshown, Host.statusOf,
    Host.statusOf, hfirst]

namespace Run

variable {config : Config} {host : Host} {requested : Bool} {setting : Setting}
  {files : FileSystem}

private theorem exitCode_of_prepare {present : Bool} {failure : RunFailure}
    (h : ((prepare config present).outcome setting files).failure?.map RunFailure.sync =
      some failure) : failure.exitCode = 1 := by
  obtain ⟨reason, hreason, rfl⟩ := Option.map_eq_some_iff.mp h
  have herror := failureOf_eq_some_iff.mp hreason
  unfold prepare at herror
  cases present with
  | true => cases herror
  | false =>
    rw [if_neg Bool.false_ne_true] at herror
    obtain ⟨after, ⟨fault, ho⟩ | ⟨entries, -, ho⟩⟩ :=
      Repository.outcome_makeParent config.workingCopyPath setting files
    · rw [ho] at herror
      cases herror
      rfl
    · rw [ho] at herror
      cases herror

private theorem exitCode_of_beginFailure {failure : RunFailure}
    (h : beginFailure config host setting files = some failure) : failure.exitCode = 1 := by
  obtain ⟨commit, -, hbegin⟩ := Option.bind_eq_some_iff.mp h
  obtain ⟨place, fault, rfl⟩ := Report.write_of_begin_error (failureOf_eq_some_iff.mp hbegin)
  rfl

private theorem tells_openingSteps :
    ∀ step ∈ openingSteps config host setting files, step.Tells host RunFailure.exitCode := by
  unfold openingSteps
  simp only [List.forall_mem_cons]
  refine ⟨.silent fun _ => exitCode_of_prepare, ?_, ?_, .silent fun _ => exitCode_of_beginFailure,
    List.forall_mem_nil _⟩
  · exact (Command.tells_step _ _ _ _).mapFailure fun _ => rfl
  · exact (Repository.tells_headStep _ _ _ _).mapFailure fun _ => rfl

private theorem tells_keyStep :
    (keyStep config host setting files).Tells host RunFailure.exitCode := by
  have hkey : ∀ failure, (if (linted config (config.tools host) setting files).files.isFile
      (Credentials.keyPath setting.home config.sshKeyPath) then none
      else some (.keyNotFound (Credentials.keyPath setting.home config.sshKeyPath))) =
        some failure → PublishFailure.exitCode failure = 1 := by
    intro failure hfailure
    split at hfailure
    · cases hfailure
    · cases hfailure
      rfl
  exact (Step.Tells.silent hkey).mapFailure fun _ => rfl

private theorem tells_processSteps :
    ∀ step ∈ processSteps config host requested setting files,
      step.Tells host RunFailure.exitCode := by
  unfold processSteps lintedSteps publishSteps
  rw [List.forall_mem_append, List.forall_mem_append]
  refine ⟨⟨tells_openingSteps, ?_⟩, ?_⟩
  · rw [List.forall_mem_singleton]
    exact (Command.tells_step _ _ _ _).mapFailure fun _ => rfl
  · cases requested with
    | false => exact List.forall_mem_nil _
    | true =>
      simp only [if_true, List.forall_mem_cons]
      refine ⟨tells_keyStep, ?_, List.forall_mem_nil _⟩
      exact (Command.tells_step _ _ _ _).mapFailure fun _ => rfl

/-- The exit status for a failed run is due to the processes that the run started. -/
theorem exitCode_perform {failure : RunFailure}
    (h : ((perform config (config.tools host) requested).outcome setting files).value =
      .error failure) :
    failure.exitCode = host.statusOf (Journal.launches
      ((perform config (config.tools host) requested).outcome setting files).entries) := by
  have hfollows := follows_processSteps config host requested setting files
  have hfailure := hfollows.failure
  rw [Outcome.failure?, failureOf_eq_some_iff.mpr h] at hfailure
  have hshown : Journal.launches
      ((perform config (config.tools host) requested).outcome setting files).entries =
        Steps.shown (processSteps config host requested setting files) := hfollows.shown
  rw [hshown]
  exact exitCode_eq_statusOf settles_processSteps tells_processSteps hfailure.symm

private theorem stage_of_concluded {tools : Tools} {stage : Stage}
    (h : (concluded config tools requested setting files).value = .ok stage) :
    stage = .published ∨ stage = .skipped := by
  rw [concluded] at h
  cases requested with
  | false =>
    cases h
    exact .inr rfl
  | true =>
    obtain ⟨_, -, h⟩ := Attempt.value_bind_eq_ok h
    cases h
    exact .inl rfl

/-- A run that is complete published or skipped publishing. -/
theorem stage_of_perform {tools : Tools} {report : RunReport}
    (h : ((perform config tools requested).outcome setting files).value = .ok report) :
    report.stage = .published ∨ report.stage = .skipped := by
  have hends := ends_perform config tools requested setting files
  rw [h] at hends
  generalize ((perform config tools requested).outcome setting files).files = after at hends
  cases hends with
  | complete _ _ _ hc => exact stage_of_concluded hc

end Run

/-! ### The status of the program -/

namespace Program

/-- What the exit status of the program tells: zero where it did what it was asked to, two for
arguments that it does not understand, and else one or the status of the process that failed. Where
there is no run no process is started and no file changed. -/
structure Concludes (host : Host) (arguments : List String) (setting : Setting)
    (files : FileSystem) (status : Nat) (after : FileSystem) (started : List Launch) : Prop where
  zero_iff : status = 0 ↔ Arguments.read arguments = .error .help ∨
    Arguments.read arguments = .error .version ∨
    ∃ options config report, Arguments.read arguments = .ok options ∧
      ((Config.loadOrBuiltIn options.config).outcome setting files).value = .ok config ∧
      ((Run.perform config (config.tools host) options.push).outcome setting files).value =
        .ok report ∧ (report.stage = .published ∨ report.stage = .skipped)
  rejected : ∀ stop, Arguments.read arguments = .error stop → stop ≠ .help → stop ≠ .version →
    status = 2 ∧ started = [] ∧ after = files
  unloaded : ∀ options failure, Arguments.read arguments = .ok options →
    ((Config.loadOrBuiltIn options.config).outcome setting files).value = .error failure →
    status = 1 ∧ started = [] ∧ after = files
  failed : ∀ options config failure, Arguments.read arguments = .ok options →
    ((Config.loadOrBuiltIn options.config).outcome setting files).value = .ok config →
    ((Run.perform config (config.tools host) options.push).outcome setting files).value =
      .error failure →
    status = failure.exitCode ∧ status = host.statusOf started

private theorem exitCode_eq_zero_iff {stop : Stop} :
    stop.exitCode = 0 ↔ stop = .help ∨ stop = .version := by
  cases stop <;> decide

private theorem exitCode_eq_two {stop : Stop} (hh : stop ≠ .help) (hv : stop ≠ .version) :
    stop.exitCode = 2 := by
  cases stop with
  | help => exact absurd rfl hh
  | version => exact absurd rfl hv
  | unknownArgument | invalidValue | repeated | tooManyValues => rfl

private theorem value_perform_eq_zero_iff (host : Host) (arguments : List String)
    (setting : Setting) (files : FileSystem) :
    ((perform host arguments).run setting files).value = 0 ↔
      Arguments.read arguments = .error .help ∨ Arguments.read arguments = .error .version ∨
      ∃ options config report, Arguments.read arguments = .ok options ∧
        ((Config.loadOrBuiltIn options.config).outcome setting files).value = .ok config ∧
        ((Run.perform config (config.tools host) options.push).outcome setting files).value =
          .ok report ∧ (report.stage = .published ∨ report.stage = .skipped) := by
  cases h : Arguments.read arguments with
  | error stop =>
    obtain ⟨hvalue, -, -⟩ := Outcome.effect_eq_iff.mp (effect_perform_stopped h host setting files)
    rw [hvalue, exitCode_eq_zero_iff]
    simp
  | ok options =>
    cases hc : ((Config.loadOrBuiltIn options.config).outcome setting files).value with
    | error failure =>
      obtain ⟨hvalue, -, -⟩ := Outcome.effect_eq_iff.mp (effect_perform_unloaded h hc host)
      rw [hvalue]
      simp [hc]
    | ok config =>
      cases hr : ((Run.perform config (config.tools host) options.push).outcome setting
          files).value with
      | error failure =>
        obtain ⟨hvalue, -, -⟩ := Outcome.effect_eq_iff.mp
          (effect_perform_failed h hc (Outcome.effect_eq_iff.mpr ⟨hr, rfl, rfl⟩))
        have hpositive := failure.isStatusFor_exitCode.positive
        have hne : failure.exitCode ≠ 0 := by omega
        rw [hvalue]
        simp [hc, hr, hne]
      | ok report =>
        obtain ⟨hvalue, -, -⟩ := Outcome.effect_eq_iff.mp
          (effect_perform_completed h hc (Outcome.effect_eq_iff.mpr ⟨hr, rfl, rfl⟩))
        rw [hvalue]
        simp [hc, hr, Run.stage_of_perform hr]

/-- Failures of a run are told by a status between one and 255, the one of the process that failed
if it is in that range. With it the program tells how it ended, for all arguments, files and
processes. -/
theorem concludes_perform :
    (∀ failure : RunFailure, IsStatusFor (failure.tool?.bind ToolFailure.code?) failure.exitCode) ∧
      ∀ (host : Host) (arguments : List String) (setting : Setting) (files : FileSystem),
        Concludes host arguments setting files ((perform host arguments).run setting files).value
          ((perform host arguments).run setting files).files
          (Journal.launches ((perform host arguments).run setting files).entries) := by
  refine ⟨RunFailure.isStatusFor_exitCode, fun host arguments setting files => ?_⟩
  constructor
  case zero_iff => exact value_perform_eq_zero_iff host arguments setting files
  case rejected =>
    intro stop h hh hv
    obtain ⟨hvalue, hfiles, hstarted⟩ := Outcome.effect_eq_iff.mp
      (effect_perform_stopped h host setting files)
    exact ⟨hvalue.trans (exitCode_eq_two hh hv), hstarted, hfiles⟩
  case unloaded =>
    intro options failure h hc
    obtain ⟨hvalue, hfiles, hstarted⟩ := Outcome.effect_eq_iff.mp
      (effect_perform_unloaded h hc host)
    exact ⟨hvalue, hstarted, hfiles⟩
  case failed =>
    intro options config failure h hc hr
    obtain ⟨hvalue, -, hstarted⟩ := Outcome.effect_eq_iff.mp
      (effect_perform_failed h hc (Outcome.effect_eq_iff.mpr ⟨hr, rfl, rfl⟩))
    refine ⟨hvalue, ?_⟩
    rw [hvalue, hstarted]
    exact Run.exitCode_perform hr

end Program

end LocaleRelay
