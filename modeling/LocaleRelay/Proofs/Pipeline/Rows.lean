import LocaleRelay.Proofs.Pipeline.Stages
import LocaleRelay.Proofs.Report

/-!
# The row of each stage

A stage asks one or two tools. Its row is made of the rows of these, whatever the tools do, with
their failures told as failures of the stage. Between them only the report is written; a report
that was begun can always be opened for the linter.
-/

namespace LocaleRelay.Run

open Files FileSystem

variable {α : Type} {view : Entry → Option α} {config : Config} {tools : Tools}
  {requested : Bool} {setting : Setting} {files : FileSystem}

/-! ### Bringing the working copy up to date -/

/-- The tool that brings the working copy up to date, by whether there is one. -/
def sync (config : Config) (tools : Tools) (present : Bool) : Attempt ToolFailure Unit :=
  if present then tools.pull config.workingCopyPath config.sourceRemote
  else tools.clone config.sourceRemote config.workingCopyPath

/-- The row of the first stage: the question for a working copy, then the tool that fits. -/
theorem follows_acquire (hv : PassesEvents view) {first : List (Step RunFailure α)}
    {second : List (Step ToolFailure α)}
    (hp : Follows view (Attempt.outcome (liftM (tools.isRepository config.workingCopyPath)) setting
      files) first)
    (hs : Follows view
      ((sync config tools
        ((tools.isRepository config.workingCopyPath).run setting files).value).outcome setting
        ((tools.isRepository config.workingCopyPath).run setting files).files) second) :
    Follows view (synced config tools setting files)
      (first ++ second.map (Step.mapFailure .sync)) := by
  rw [synced, acquire]
  refine .bind hp fun present hpresent => ?_
  rw [Attempt.outcome_lift] at hpresent ⊢
  cases hpresent
  unfold sync at hs
  split
  · next h =>
    rw [if_pos h] at hs
    exact hv.bind_log (hs.mapFailure _)
  · next h =>
    rw [if_neg h] at hs
    exact hv.bind_log (hs.mapFailure _)

/-- What the first stage leaves is what its tool leaves. -/
theorem synced_eq (config : Config) (tools : Tools) (setting : Setting) (files : FileSystem) :
    let present := (tools.isRepository config.workingCopyPath).run setting files
    let outcome := (sync config tools present.value).outcome setting present.files
    (synced config tools setting files).value = outcome.value.mapError .sync ∧
      (synced config tools setting files).files = outcome.files := by
  intro present outcome
  have hresult : (acquire config tools).result setting files =
      (outcome.value.mapError .sync, outcome.files) := by
    rw [acquire, Attempt.result_bind_lift]
    unfold outcome sync
    split
    · rw [Attempt.result_bind_lift, Attempt.result, Attempt.outcome_mapFailure]
      rfl
    · rw [Attempt.result_bind_lift, Attempt.result, Attempt.outcome_mapFailure]
      rfl
  exact Prod.ext_iff.mp hresult

/-! ### Beginning the report -/

/-- The report is begun with the commit that is checked out, or one of the two fails. -/
inductive Records (config : Config) (tools : Tools) (setting : Setting) (files : FileSystem) :
    Except RunFailure String → FileSystem → Prop
  | head {failure : ToolFailure}
    (h : ((tools.headCommit config.workingCopyPath).outcome setting files).value = .error failure) :
    Records config tools setting files (.error (.sync failure))
      ((tools.headCommit config.workingCopyPath).outcome setting files).files
  | begin {commit : String} {failure : RunFailure}
    (hc : ((tools.headCommit config.workingCopyPath).outcome setting files).value = .ok commit)
    (h : ((Report.begin config.statusReportPath commit).outcome setting
      ((tools.headCommit config.workingCopyPath).outcome setting files).files).value =
        .error failure) :
    Records config tools setting files (.error failure)
      ((Report.begin config.statusReportPath commit).outcome setting
        ((tools.headCommit config.workingCopyPath).outcome setting files).files).files
  | complete {commit : String}
    (hc : ((tools.headCommit config.workingCopyPath).outcome setting files).value = .ok commit)
    (h : ((Report.begin config.statusReportPath commit).outcome setting
      ((tools.headCommit config.workingCopyPath).outcome setting files).files).value = .ok ()) :
    Records config tools setting files (.ok commit)
      ((Report.begin config.statusReportPath commit).outcome setting
        ((tools.headCommit config.workingCopyPath).outcome setting files).files).files

/-- The second stage ends in one of these ways. -/
theorem records_recordCommit (config : Config) (tools : Tools) (setting : Setting)
    (files : FileSystem) :
    Records config tools setting files ((recordCommit config tools).outcome setting files).value
      ((recordCommit config tools).outcome setting files).files := by
  show Records config tools setting files ((recordCommit config tools).result setting files).1
    ((recordCommit config tools).result setting files).2
  rw [recordCommit]
  cases hc : ((tools.headCommit config.workingCopyPath).outcome setting files).value with
  | error failure =>
    have hhead : ((tools.headCommit config.workingCopyPath).mapFailure RunFailure.sync).result
        setting files = (.error (.sync failure),
          ((tools.headCommit config.workingCopyPath).outcome setting files).files) := by
      rw [Attempt.result, Attempt.outcome_mapFailure, hc]
      rfl
    rw [Attempt.result_bind_error hhead]
    exact .head hc
  | ok commit =>
    have hhead : ((tools.headCommit config.workingCopyPath).mapFailure RunFailure.sync).result
        setting files = (.ok commit,
          ((tools.headCommit config.workingCopyPath).outcome setting files).files) := by
      rw [Attempt.result, Attempt.outcome_mapFailure, hc]
      rfl
    rw [Attempt.result_bind_ok hhead]
    cases hb : ((Report.begin config.statusReportPath commit).outcome setting
        ((tools.headCommit config.workingCopyPath).outcome setting files).files).value with
    | error failure =>
      rw [Attempt.result_bind_error (Prod.ext hb rfl : (Report.begin _ _).result _ _ = (_, _))]
      exact .begin hc hb
    | ok _ =>
      rw [Attempt.result_bind_ok (Prod.ext hb rfl : (Report.begin _ _).result _ _ = (_, _))]
      exact .complete hc hb

/-- Beginning a report shows nothing where events are not seen. -/
theorem follows_begin (hv : PassesEvents view) (path : RawPath) (commit : String)
    (setting : Setting) (files : FileSystem) :
    Follows view ((Report.begin path commit).outcome setting files)
      [⟨[], ((Report.begin path commit).outcome setting files).failure?⟩] := by
  have hself := Follows.self view ((Report.begin path commit).outcome setting files)
  have hnone : ((Report.begin path commit).outcome setting files).entries.filterMap view = [] := by
    apply hv.filterMap_events
    rcases Report.outcome_begin path commit setting files with
      ⟨parent, fault, -, -, ho⟩ | ⟨fault, -, -, ho⟩ | ⟨after, event, -, -, ho⟩
    · simp [ho]
    · simp [ho]
    · simp [ho]
  rw [hnone] at hself
  exact hself

/-- The row of the second stage: the question for the commit, then the report, which shows nothing
but may fail. -/
theorem follows_recordCommit (hv : PassesEvents view) {first : List (Step ToolFailure α)}
    {failure : Option RunFailure}
    (hh : Follows view ((tools.headCommit config.workingCopyPath).outcome setting
      (synced config tools setting files).files) first)
    (hb : ∀ commit, ((tools.headCommit config.workingCopyPath).outcome setting
        (synced config tools setting files).files).value = .ok commit →
      ((Report.begin config.statusReportPath commit).outcome setting
        ((tools.headCommit config.workingCopyPath).outcome setting
          (synced config tools setting files).files).files).failure? = failure) :
    Follows view (recorded config tools setting files)
      (first.map (Step.mapFailure .sync) ++ [⟨[], failure⟩]) := by
  rw [recorded, recordCommit]
  refine .bind_mapFailure _ hh fun commit hcommit => ?_
  have hbegin := follows_begin hv config.statusReportPath commit setting
    ((tools.headCommit config.workingCopyPath).outcome setting
      (synced config tools setting files).files).files
  rw [hb commit hcommit] at hbegin
  rw [← List.append_nil [_]]
  exact .bind hbegin fun _ _ => .pure commit

/-! ### Linting -/

/-- After the second stage the report can be opened, and the third stage is the linter at it. -/
theorem linted_eq {commit : String}
    (h : (recorded config tools setting files).value = .ok commit) :
    ∃ place node, (recorded config tools setting files).files.lookup
        config.statusReportPath = .ok (place, node) ∧
      IsWritten (Report.header commit).toUTF8 node ∧
      linted config tools setting files = ((tools.lint place).mapFailure RunFailure.lint).outcome
        setting (recorded config tools setting files).files := by
  have hrecords :=
    records_recordCommit config tools setting (synced config tools setting files).files
  rw [← recorded, h] at hrecords
  generalize hafter : (recorded config tools setting files).files = after at hrecords
  cases hrecords with
  | complete hc hb =>
    obtain ⟨place, node, hl, hw⟩ := Report.lookup_of_begin hb
    have hopen := Report.openAppend_of_isWritten setting hl hw
    refine ⟨place, node, hl, hw, ?_⟩
    rw [linted, hafter, lint, Attempt.outcome_bind_ok (by rw [hopen]), hopen]
    rfl

/-! ### Publishing -/

/-- The row of publishing: the question for the credentials and the publication with them. -/
theorem follows_publish (hv : PassesEvents view) {first : List (Step PublishFailure α)}
    {second : List (Step ToolFailure α)}
    (hc : Follows view (tools.credentials.outcome setting files) first)
    (hp : ∀ vars, (tools.credentials.outcome setting files).value = .ok vars →
      Follows view ((tools.push config.workingCopyPath config.deploymentRemote vars).outcome setting
        (tools.credentials.outcome setting files).files) second) :
    Follows view ((publish config tools).outcome setting files)
      (first.map (Step.mapFailure .publish) ++
        second.map (Step.mapFailure fun failure => .publish (.tool failure))) := by
  have hask : Follows view ((ask config tools).outcome setting files)
      (first.map (Step.mapFailure .publish) ++
        second.map (Step.mapFailure fun failure => .publish (.tool failure))) :=
    .bind_mapFailure _ hc fun vars hvars => (hp vars hvars).mapFailure _
  rw [publish_eq]
  split
  · obtain ⟨hfiles, hevents⟩ := Listed.idle_logHome setting files
    apply Follows.bind_silent (hv.filterMap_events hevents)
    rw [hfiles]
    exact hask
  · exact hask

/-- The row of the last stage: nothing unless the run publishes. -/
theorem follows_conclude (hv : PassesEvents view) {first : List (Step PublishFailure α)}
    {second : List (Step ToolFailure α)}
    (hc : Follows view (tools.credentials.outcome setting (linted config tools setting files).files)
      first)
    (hp : ∀ vars, (tools.credentials.outcome setting
        (linted config tools setting files).files).value = .ok vars →
      Follows view ((tools.push config.workingCopyPath config.deploymentRemote vars).outcome setting
        (tools.credentials.outcome setting (linted config tools setting files).files).files)
      second) :
    Follows view (concluded config tools requested setting files)
      (if requested then first.map (Step.mapFailure .publish) ++
        second.map (Step.mapFailure fun failure => .publish (.tool failure)) else []) := by
  rw [concluded]
  cases requested with
  | false => exact hv.bind_log (.pure _)
  | true =>
    rw [if_pos rfl, ← List.append_nil (_ ++ _)]
    exact .bind (follows_publish hv hc hp) fun _ _ => hv.bind_log (.pure _)

end LocaleRelay.Run
