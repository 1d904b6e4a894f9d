import LocaleRelay.Proofs.Pipeline.Requests

/-!
# The report through a history of runs

Scripted tools touch no file, except that the linter writes to the opened report. A run then leaves
the report as it was if it fails before the report is begun, and else makes it the header and the
lint output of this run. So after any history of runs the report is that of the last run that began
it, and nothing but the report and missing directories above it has changed.
-/

namespace LocaleRelay

open Files FileSystem

/-- Whether a failure comes before the report is begun, or while it is. -/
def RunFailure.isEarly : RunFailure → Bool
  | .sync _ | .write _ _ => true
  | .lint _ | .publish _ => false

namespace Run

variable {config : Config} {script : Script} {requested : Bool} {setting : Setting}
  {files : FileSystem}

/-- Whether a run fails before the report is begun, or while it is. -/
def stopsEarly : Except RunFailure RunReport → Bool
  | .ok _ => false
  | .error failure => failure.isEarly

/-- The text of a report: the header and what the linter writes. -/
def reportText (script : Script) (commit : String) : ByteArray :=
  (Report.header commit).toUTF8 ++ script.lintOutput

/-- What a run with scripted tools does to the files, by its result. A run that stops early leaves
the report as it was and any other writes it anew. Nothing else changes but missing directories
above the report. -/
structure Reports (config : Config) (script : Script) (setting : Setting) (before : FileSystem)
    (result : Except RunFailure RunReport) (after : FileSystem) : Prop where
  kept : stopsEarly result = true →
    after.fileContent? config.statusReportPath =
      before.fileContent? config.statusReportPath
  written : stopsEarly result = false → ∃ commit, script.head = .ok commit ∧
    ∀ bytes, after.fileContent? config.statusReportPath = some bytes →
      bytes = reportText script commit
  others : DiffersOnly (Report.Place config.statusReportPath before after) before after
  opens : ∀ commit,
    ((Report.begin config.statusReportPath commit).outcome setting before).value = .ok () →
      ∃ place, ((Report.openAppend config.statusReportPath).outcome setting
        ((Report.begin config.statusReportPath commit).outcome setting before).files).value =
          .ok place

/-! ### The stages with scripted tools -/

private theorem synced_scripted (config : Config) (script : Script) (setting : Setting)
    (files : FileSystem) :
    (synced config script.tools setting files).files = files ∧
      ∀ failure, (synced config script.tools setting files).value = .error failure →
        failure.isEarly = true := by
  obtain ⟨hvalue, hfiles⟩ := synced_eq config script.tools setting files
  refine ⟨?_, fun failure hfailure => ?_⟩
  · rw [hfiles]
    unfold sync Script.tools
    cases script.isRepository <;> simp [Script.outcome_answer]
  · rw [hvalue] at hfailure
    obtain ⟨reason, -, rfl⟩ := mapError_eq_error hfailure
    rfl

private theorem records_scripted (config : Config) (script : Script) (setting : Setting)
    (files : FileSystem) :
    Records config script.tools setting files (recorded config script.tools setting files).value
      (recorded config script.tools setting files).files := by
  rw [recorded, (synced_scripted config script setting files).1]
  exact records_recordCommit config script.tools setting files

private theorem outcome_headCommit (path : RawPath) :
    (script.tools.headCommit path).outcome setting files =
      ⟨script.head, files, [.request (.headCommit path)]⟩ := Script.outcome_answer _ _ _ _

private theorem result_answered {ε δ α : Type} {attempt : Attempt ε α} {given : Except ε α}
    {entries : List Entry} (h : attempt.outcome setting files = ⟨given, files, entries⟩)
    (f : ε → δ) : (attempt.mapFailure f).result setting files = (given.mapError f, files) := by
  rw [Attempt.result, Attempt.outcome_mapFailure, h]

private theorem publish_scripted (config : Config) (script : Script) (setting : Setting)
    (files : FileSystem) :
    ∃ result : Except RunFailure Unit, (publish config script.tools).result setting files =
      (result, files) ∧ ∀ failure, result = .error failure → failure.isEarly = false := by
  have hask : ∃ result : Except RunFailure Unit, (ask config script.tools).result setting files =
      (result, files) ∧ ∀ failure, result = .error failure → failure.isEarly = false := by
    have hcredentials : (script.tools.credentials.mapFailure RunFailure.publish).result setting
        files = (script.credentials.mapError .publish, files) :=
      result_answered (Script.outcome_answer _ _ _ _) _
    cases hc : script.credentials with
    | error failure =>
      rw [hc] at hcredentials
      refine ⟨.error (.publish failure), Attempt.result_bind_error hcredentials _, ?_⟩
      intro _ hf
      cases hf
      rfl
    | ok vars =>
      rw [hc] at hcredentials
      refine ⟨_, (Attempt.result_bind_ok hcredentials _).trans
        (result_answered (Script.outcome_answer _ _ setting files) _), fun failure hf => ?_⟩
      obtain ⟨reason, -, rfl⟩ := mapError_eq_error hf
      rfl
  rw [publish_eq]
  split
  · rw [Attempt.result_bind_lift, (Listed.idle_logHome setting files).1]
    exact hask
  · exact hask

private theorem conclude_scripted (config : Config) (script : Script) (setting : Setting)
    (files : FileSystem) (publication : Publication) :
    ((conclude config script.tools publication).outcome setting files).files = files ∧
      ∀ failure, ((conclude config script.tools publication).outcome setting files).value =
        .error failure → failure.isEarly = false := by
  show ((conclude config script.tools publication).result setting files).2 = files ∧
    ∀ failure, ((conclude config script.tools publication).result setting files).1 =
      .error failure → failure.isEarly = false
  cases publication with
  | skip =>
    refine ⟨rfl, fun failure hf => ?_⟩
    cases hf
  | publish =>
    obtain ⟨result, hpublish, hlate⟩ := publish_scripted config script setting files
    rw [conclude]
    cases result with
    | error failure =>
      rw [Attempt.result_bind_error hpublish]
      refine ⟨rfl, fun other hf => ?_⟩
      cases hf
      exact hlate failure rfl
    | ok _ =>
      rw [Attempt.result_bind_ok hpublish, Attempt.result_bind_lift]
      refine ⟨rfl, fun failure hf => ?_⟩
      cases hf

/-! ### What a run leaves -/

private theorem openAppend_of_begin {path : RawPath} {commit : String}
    (h : ((Report.begin path commit).outcome setting files).value = .ok ()) :
    ∃ place, ((Report.openAppend path).outcome setting
      ((Report.begin path commit).outcome setting files).files).value = .ok place := by
  obtain ⟨place, node, hl, hw⟩ := Report.lookup_of_begin h
  exact ⟨place, by rw [Report.openAppend_of_isWritten setting hl hw]⟩

private theorem reports_of_early {failure : RunFailure} {after : FileSystem}
    (hearly : failure.isEarly = true)
    (hkept : after.fileContent? config.statusReportPath =
      files.fileContent? config.statusReportPath)
    (hothers : DiffersOnly (Report.Place config.statusReportPath files after) files after) :
    Reports config script setting files (.error failure) after where
  kept _ := hkept
  written h := absurd (hearly.symm.trans h) (by decide)
  others := hothers
  opens _ := openAppend_of_begin

private theorem reports_record {failure : RunFailure}
    (h : (recorded config script.tools setting files).value = .error failure) :
    Reports config script setting files (.error failure)
      (recorded config script.tools setting files).files := by
  have hrecords := records_scripted config script setting files
  rw [h] at hrecords
  generalize (recorded config script.tools setting files).files = after at hrecords
  cases hrecords with
  | head hc =>
    rw [outcome_headCommit]
    exact reports_of_early rfl rfl (.refl _ _)
  | @begin commit _ hc hb =>
    rw [outcome_headCommit] at hb ⊢
    obtain ⟨place, fault, rfl⟩ := Report.write_of_begin_error hb
    obtain ⟨hbefore, hafter⟩ := Report.fileContent?_of_begin_error hb
    exact reports_of_early rfl (hafter.trans hbefore.symm) (Report.differsOnly_begin _ _ _ _)

private theorem linted_scripted {commit : String}
    (hr : (recorded config script.tools setting files).value = .ok commit) :
    script.head = .ok commit ∧
      (∀ bytes, (linted config script.tools setting files).files.fileContent?
        config.statusReportPath = some bytes → bytes = reportText script commit) ∧
      DiffersOnly (Report.Place config.statusReportPath files
        (linted config script.tools setting files).files) files
        (linted config script.tools setting files).files ∧
      ∀ failure, (linted config script.tools setting files).value = .error failure →
        failure.isEarly = false := by
  obtain ⟨place, node, hl, hw, hlinted⟩ := linted_eq hr
  have hrecords := records_scripted config script setting files
  have hbegun : script.head = .ok commit ∧
      DiffersOnly (Report.Place config.statusReportPath files
        (recorded config script.tools setting files).files) files
        (recorded config script.tools setting files).files := by
    rw [hr] at hrecords
    generalize (recorded config script.tools setting files).files = after at hrecords
    cases hrecords with
    | complete hc hb =>
      rw [outcome_headCommit] at hc ⊢
      exact ⟨hc, Report.differsOnly_begin _ _ _ _⟩
  rw [Attempt.outcome_mapFailure, Script.outcome_lint] at hlinted
  rw [hlinted]
  refine ⟨hbegun.1, fun bytes hbytes => Report.fileContent?_appendAll hl hw hbytes, ?_, ?_⟩
  · refine Report.differsOnly_trans hbegun.2 ?_
    have happended := differsOnly_appendAll (recorded config script.tools setting files).files place
      [script.lintOutput]
    obtain ⟨node', hl', -⟩ := happended.lookup hl
    refine happended.mono ?_
    rintro _ rfl
    exact .inl ⟨node', hl'⟩
  · intro failure hfailure
    obtain ⟨reason, -, rfl⟩ := mapError_eq_error hfailure
    rfl

private theorem reports_of_late {commit : String} {result : Except RunFailure RunReport}
    (hr : (recorded config script.tools setting files).value = .ok commit)
    (hlate : stopsEarly result = false) :
    Reports config script setting files result
      (linted config script.tools setting files).files := by
  obtain ⟨hhead, hwritten, hothers, -⟩ := linted_scripted hr
  constructor
  case kept =>
    intro hearly
    exact absurd (hlate.symm.trans hearly) (by decide)
  case written => exact fun _ => ⟨commit, hhead, hwritten⟩
  case others => exact hothers
  case opens => exact fun _ => openAppend_of_begin

/-- What a run with scripted tools does to the report and to the other files. -/
theorem reports_perform (config : Config) (script : Script) (requested : Bool) (setting : Setting)
    (files : FileSystem) :
    Reports config script setting files
      ((perform config script.tools requested).outcome setting files).value
      ((perform config script.tools requested).outcome setting files).files := by
  have hends := ends_perform config script.tools requested setting files
  generalize ((perform config script.tools requested).outcome setting files).value = result,
    ((perform config script.tools requested).outcome setting files).files = after at hends
  cases hends with
  | sync h =>
    obtain ⟨hfiles, hearly⟩ := synced_scripted config script setting files
    rw [hfiles]
    exact reports_of_early (hearly _ h) rfl (.refl _ _)
  | record hs h => exact reports_record h
  | lint hs hr h =>
    obtain ⟨-, -, -, hlate⟩ := linted_scripted hr
    exact reports_of_late hr (hlate _ h)
  | conclude hs hr hl h =>
    obtain ⟨hfiles, hlate⟩ := conclude_scripted config script setting
      (linted config script.tools setting files).files (Publication.decide requested true)
    rw [concluded, hfiles]
    exact reports_of_late hr (hlate _ h)
  | complete hs hr hl h =>
    obtain ⟨hfiles, -⟩ := conclude_scripted config script setting
      (linted config script.tools setting files).files (Publication.decide requested true)
    rw [concluded, hfiles]
    exact reports_of_late hr rfl

/-! ### What a history of runs leaves -/

/-- The files after runs in a row, each with its script and its order to publish. -/
def series (config : Config) (setting : Setting) (runs : List (Script × Bool))
    (files : FileSystem) : FileSystem :=
  runs.foldl (fun files run =>
    ((perform config run.1.tools run.2).outcome setting files).files) files

/-- The text that a run gives the report, unless it stops early. -/
def writtenText? (script : Script) (result : Except RunFailure RunReport) : Option ByteArray :=
  if stopsEarly result then none else script.head.toOption.map (reportText script)

/-- The text of the last of some runs that gives the report one. -/
def lastText? (config : Config) (setting : Setting) :
    List (Script × Bool) → FileSystem → Option ByteArray
  | [], _ => none
  | (script, requested) :: rest, files =>
    let run := (perform config script.tools requested).outcome setting files
    (lastText? config setting rest run.files).or (writtenText? script run.value)

private theorem differsOnly_series (config : Config) (setting : Setting)
    (runs : List (Script × Bool)) (files : FileSystem) :
    DiffersOnly (Report.Place config.statusReportPath files (series config setting runs files))
      files (series config setting runs files) := by
  induction runs generalizing files with
  | nil => exact .refl _ files
  | cons run rest ih =>
    obtain ⟨script, requested⟩ := run
    exact Report.differsOnly_trans (reports_perform config script requested setting files).others
      (ih _)

private theorem fileContent?_series (config : Config) (setting : Setting)
    (runs : List (Script × Bool)) (files : FileSystem) :
    match lastText? config setting runs files with
    | some text => ∀ bytes, (series config setting runs files).fileContent?
        config.statusReportPath = some bytes → bytes = text
    | none => (series config setting runs files).fileContent? config.statusReportPath =
        files.fileContent? config.statusReportPath := by
  induction runs generalizing files with
  | nil => rfl
  | cons run rest ih =>
    obtain ⟨script, requested⟩ := run
    have hrun := reports_perform config script requested setting files
    have hrest := ih ((perform config script.tools requested).outcome setting files).files
    rw [lastText?, series, List.foldl_cons]
    rw [series] at hrest
    cases hlast : lastText? config setting rest
        ((perform config script.tools requested).outcome setting files).files with
    | some text =>
      rw [hlast] at hrest
      exact hrest
    | none =>
      rw [hlast] at hrest
      dsimp only at hrest
      rw [Option.none_or, writtenText?, hrest]
      cases hearly : stopsEarly
          ((perform config script.tools requested).outcome setting files).value with
      | true => exact hrun.kept hearly
      | false =>
        obtain ⟨commit, hhead, hwritten⟩ := hrun.written hearly
        rw [hhead]
        exact hwritten

/-- After any history of runs with scripted tools a further run treats the report as it should. The
report is the text of the last run that began it, or what it was before the history if none did, and
nothing has changed but the report and missing directories above it. -/
theorem reports_series (config : Config) (setting : Setting) (runs : List (Script × Bool))
    (files : FileSystem) :
    (∀ script requested, Reports config script setting (series config setting runs files)
      ((perform config script.tools requested).outcome setting
        (series config setting runs files)).value
      (series config setting (runs ++ [(script, requested)]) files)) ∧
    (match lastText? config setting runs files with
      | some text => ∀ bytes, (series config setting runs files).fileContent?
          config.statusReportPath = some bytes → bytes = text
      | none => (series config setting runs files).fileContent? config.statusReportPath =
          files.fileContent? config.statusReportPath) ∧
    DiffersOnly (Report.Place config.statusReportPath files (series config setting runs files))
      files (series config setting runs files) := by
  refine ⟨?_, fileContent?_series config setting runs files,
    differsOnly_series config setting runs files⟩
  intro script requested
  have hlast : series config setting (runs ++ [(script, requested)]) files =
      ((perform config script.tools requested).outcome setting
        (series config setting runs files)).files := List.foldl_concat _ _ _ _
  rw [hlast]
  exact reports_perform config script requested setting (series config setting runs files)

end Run

end LocaleRelay
