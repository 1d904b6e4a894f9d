import LocaleRelay.Pipeline.Run
import LocaleRelay.Proofs.Steps

/-!
# The stages of a run

Whatever the tools do, a run is four stages in a row. The first stage that fails ends the run with
its failure, and the files are what that stage left. Seen through a view of the journal that passes
over events, the run is the rows of its stages, one after the other.
-/

namespace LocaleRelay

open Files

/-- Listing a directory is idle. -/
theorem Listed.idle_logDirectory (home : RawPath) : (Listed.logDirectory home).Idle := by
  have hlines : ∀ listing : List Listed, (Listed.logLines listing).Idle := by
    intro listing
    induction listing with
    | nil => exact .pure ()
    | cons listed rest ih => exact .bind (.log _ _ _ _) fun _ => ih
  refine .bind .setting fun setting => .bind .files fun files => ?_
  split
  · exact .bind (.log _ _ _ _) fun _ => hlines _
  · exact .log _ _ _ _

/-- Listing the home directory is idle, if there is one or not. -/
theorem Listed.idle_logHome : Listed.logHome.Idle := by
  refine .bind .setting fun setting => ?_
  split
  · exact Listed.idle_logDirectory _
  · exact .log _ _ _ _

namespace Run

variable {config : Config} {tools : Tools} {requested : Bool} {setting : Setting}
  {files : FileSystem}

/-! ### What the stages leave -/

/-- What the first stage leaves. -/
def synced (config : Config) (tools : Tools) (setting : Setting) (files : FileSystem) :
    Outcome (Except RunFailure Unit) := (acquire config tools).outcome setting files

/-- What the second stage leaves, after the first. -/
def recorded (config : Config) (tools : Tools) (setting : Setting) (files : FileSystem) :
    Outcome (Except RunFailure String) :=
  (recordCommit config tools).outcome setting (synced config tools setting files).files

/-- What the third stage leaves, after the second. -/
def linted (config : Config) (tools : Tools) (setting : Setting) (files : FileSystem) :
    Outcome (Except RunFailure Unit) :=
  (lint config tools).outcome setting (recorded config tools setting files).files

/-- What the last stage leaves, after the third. -/
def concluded (config : Config) (tools : Tools) (requested : Bool) (setting : Setting)
    (files : FileSystem) : Outcome (Except RunFailure Stage) :=
  (conclude config tools (Publication.decide requested true)).outcome setting
    (linted config tools setting files).files

/-! ### Publishing -/

/-- Publishing without the listing of the home directory. -/
def ask (config : Config) (tools : Tools) : Attempt RunFailure Unit := do
  let vars ← tools.credentials.mapFailure .publish
  (tools.push config.workingCopyPath config.deploymentRemote vars).mapFailure
    fun failure => .publish (.tool failure)

/-- If the home directory is listed, that comes before everything else in publishing. -/
theorem publish_eq (config : Config) (tools : Tools) :
    publish config tools =
      if config.listHomeBeforePush then liftM Listed.logHome >>= fun _ => ask config tools
      else ask config tools := by
  rw [publish]
  split
  · rfl
  · rfl

/-! ### Around the stages -/

/-- The event by which a stage is logged, without the span of its run. -/
def stageEvent (level : Level) (stage : Stage) (message : String) (fields : List Field) : Event :=
  { level, source := .pipeline, message, fields := ⟨"stage", .bare stage.name⟩ :: fields,
    span := none }

/-- The first event of a run. -/
def startEvent : Event := stageEvent .info .start "[PIPELINE] Starting sync/lint/publish run" []

/-- The last event of a run that fails. -/
def failureEvent (failure : RunFailure) : Event :=
  stageEvent .error .failed "[PIPELINE][ERROR] Run failed"
    [⟨"error", .bare failure.message⟩, ⟨"exit_code", .bare (toString failure.exitCode)⟩]

/-- What is logged after the stages. -/
def closingEvents : Except RunFailure RunReport → List Event
  | .ok _ => []
  | .error failure => [failureEvent failure]

private theorem run_body (config : Config) (tools : Tools) (requested : Bool) (setting : Setting)
    (files : FileSystem) :
    (body config tools requested).run setting files =
      ⟨((stages config tools requested).outcome setting files).value,
        ((stages config tools requested).outcome setting files).files,
        .event startEvent :: (((stages config tools requested).outcome setting files).entries ++
          (closingEvents ((stages config tools requested).outcome setting files).value).map
            .event)⟩ := by
  rw [body]
  simp only [Act.run_bind, logStage, Act.run_log, Attempt.run_run]
  cases hv : ((stages config tools requested).outcome setting files).value with
  | ok report => rfl
  | error failure => rfl

/-- Around its stages a run does nothing but logging. -/
theorem outcome_perform (config : Config) (tools : Tools) (requested : Bool) (setting : Setting)
    (files : FileSystem) :
    ((perform config tools requested).outcome setting files).value =
        ((stages config tools requested).outcome setting files).value ∧
      ((perform config tools requested).outcome setting files).files =
        ((stages config tools requested).outcome setting files).files := by
  rw [perform, Attempt.outcome_mk, Act.run_within, run_body]
  exact ⟨rfl, rfl⟩

/-- The entries of a run are those of its stages between its first event and, if it fails, its last
one, all of them inside its span. -/
theorem entries_perform (config : Config) (tools : Tools) (requested : Bool) (setting : Setting)
    (files : FileSystem) :
    ((perform config tools requested).outcome setting files).entries =
      (.event startEvent :: (((stages config tools requested).outcome setting files).entries ++
        (closingEvents ((stages config tools requested).outcome setting files).value).map
          Entry.event)).map (Entry.within ⟨requested⟩) := by
  rw [perform, Attempt.outcome_mk, Act.run_within, run_body]

/-- Runs leave the same if their stages do. -/
theorem perform_congr {other : Config} {otherTools : Tools} {otherSetting : Setting}
    (h : (stages config tools requested).outcome setting files =
      (stages other otherTools requested).outcome otherSetting files) :
    (perform config tools requested).outcome setting files =
      (perform other otherTools requested).outcome otherSetting files := by
  rw [perform, perform, Attempt.outcome_mk, Attempt.outcome_mk, Act.run_within, Act.run_within,
    run_body, run_body, h]

private theorem follows_body {α : Type} {view : Entry → Option α} (hv : PassesEvents view)
    {steps : List (Step RunFailure α)}
    (h : Follows view ((stages config tools requested).outcome setting files) steps) :
    Follows view ((perform config tools requested).outcome setting files) steps := by
  have hclosing : ((closingEvents ((stages config tools requested).outcome setting files).value).map
      Entry.event).filterMap view = [] := hv.filterMap_events (by simp)
  constructor
  · rw [entries_perform, hv.filterMap_within, List.filterMap_cons_none (hv _),
      List.filterMap_append, hclosing, List.append_nil, h.shown]
  · rw [Outcome.failure?, (outcome_perform config tools requested setting files).1]
    exact h.failure

/-! ### The run as a whole -/

/-- How a run ends: with the failure of the stage that fails, or with the result of the last one,
and with the files that this stage left. -/
inductive Ends (config : Config) (tools : Tools) (requested : Bool) (setting : Setting)
    (files : FileSystem) : Except RunFailure RunReport → FileSystem → Prop
  | sync {failure : RunFailure} (h : (synced config tools setting files).value = .error failure) :
    Ends config tools requested setting files (.error failure)
      (synced config tools setting files).files
  | record {failure : RunFailure} (hs : (synced config tools setting files).value = .ok ())
    (h : (recorded config tools setting files).value = .error failure) :
    Ends config tools requested setting files (.error failure)
      (recorded config tools setting files).files
  | lint {failure : RunFailure} {commit : String}
    (hs : (synced config tools setting files).value = .ok ())
    (hr : (recorded config tools setting files).value = .ok commit)
    (h : (linted config tools setting files).value = .error failure) :
    Ends config tools requested setting files (.error failure)
      (linted config tools setting files).files
  | conclude {failure : RunFailure} {commit : String}
    (hs : (synced config tools setting files).value = .ok ())
    (hr : (recorded config tools setting files).value = .ok commit)
    (hl : (linted config tools setting files).value = .ok ())
    (h : (concluded config tools requested setting files).value = .error failure) :
    Ends config tools requested setting files (.error failure)
      (concluded config tools requested setting files).files
  | complete {commit : String} {stage : Stage}
    (hs : (synced config tools setting files).value = .ok ())
    (hr : (recorded config tools setting files).value = .ok commit)
    (hl : (linted config tools setting files).value = .ok ())
    (h : (concluded config tools requested setting files).value = .ok stage) :
    Ends config tools requested setting files
      (.ok ⟨commit, config.statusReportPath, Publication.decide requested true, stage⟩)
      (concluded config tools requested setting files).files

private theorem result_bind_logStage {β : Type} (level : Level) (stage : Stage) (message : String)
    (fields : List Field) (next : Unit → Attempt RunFailure β) (setting : Setting)
    (files : FileSystem) :
    (liftM (logStage level stage message fields) >>= next : Attempt RunFailure β).result setting
      files = (next ()).result setting files :=
  Attempt.result_bind_lift _ next setting files

/-- Every run ends in one of these ways. -/
theorem ends_perform (config : Config) (tools : Tools) (requested : Bool) (setting : Setting)
    (files : FileSystem) :
    Ends config tools requested setting files
      ((perform config tools requested).outcome setting files).value
      ((perform config tools requested).outcome setting files).files := by
  obtain ⟨hvalue, hfiles⟩ := outcome_perform config tools requested setting files
  rw [hvalue, hfiles]
  show Ends config tools requested setting files
    ((stages config tools requested).result setting files).1
    ((stages config tools requested).result setting files).2
  rw [stages]
  cases hs : (synced config tools setting files).value with
  | error failure =>
    have hfirst : (acquire config tools).result setting files =
        (.error failure, (synced config tools setting files).files) := Prod.ext hs rfl
    rw [Attempt.result_bind_error hfirst]
    exact .sync hs
  | ok _ =>
    have hfirst : (acquire config tools).result setting files =
        (.ok (), (synced config tools setting files).files) := Prod.ext hs rfl
    rw [Attempt.result_bind_ok hfirst, result_bind_logStage]
    cases hr : (recorded config tools setting files).value with
    | error failure =>
      have hsecond : (recordCommit config tools).result setting
          (synced config tools setting files).files =
          (.error failure, (recorded config tools setting files).files) := Prod.ext hr rfl
      rw [Attempt.result_bind_error hsecond]
      exact .record hs hr
    | ok commit =>
      have hsecond : (recordCommit config tools).result setting
          (synced config tools setting files).files =
          (.ok commit, (recorded config tools setting files).files) := Prod.ext hr rfl
      rw [Attempt.result_bind_ok hsecond, result_bind_logStage]
      cases hl : (linted config tools setting files).value with
      | error failure =>
        have hthird : (Run.lint config tools).result setting
            (recorded config tools setting files).files =
            (.error failure, (linted config tools setting files).files) := Prod.ext hl rfl
        rw [Attempt.result_bind_error hthird]
        exact .lint hs hr hl
      | ok _ =>
        have hthird : (Run.lint config tools).result setting
            (recorded config tools setting files).files =
            (.ok (), (linted config tools setting files).files) := Prod.ext hl rfl
        rw [Attempt.result_bind_ok hthird, result_bind_logStage]
        cases hc : (concluded config tools requested setting files).value with
        | error failure =>
          have hlast : (Run.conclude config tools (Publication.decide requested true)).result
              setting (linted config tools setting files).files =
              (.error failure, (concluded config tools requested setting files).files) :=
            Prod.ext hc rfl
          rw [Attempt.result_bind_error hlast]
          exact .conclude hs hr hl hc
        | ok stage =>
          have hlast : (Run.conclude config tools (Publication.decide requested true)).result
              setting (linted config tools setting files).files =
              (.ok stage, (concluded config tools requested setting files).files) :=
            Prod.ext hc rfl
          rw [Attempt.result_bind_ok hlast]
          exact .complete hs hr hl hc

/-- Seen without its events, a run is the rows of its stages. -/
theorem follows_perform {α : Type} {view : Entry → Option α} (hv : PassesEvents view)
    {first second third last : List (Step RunFailure α)}
    (hs : Follows view (synced config tools setting files) first)
    (hr : Follows view (recorded config tools setting files) second)
    (hl : ∀ commit, (recorded config tools setting files).value = .ok commit →
      Follows view (linted config tools setting files) third)
    (hc : Follows view (concluded config tools requested setting files) last) :
    Follows view ((perform config tools requested).outcome setting files)
      (first ++ (second ++ (third ++ last))) := by
  apply follows_body hv
  have hlast : ∀ commit, (recorded config tools setting files).value = .ok commit →
      Follows view (Attempt.outcome (do
        lint config tools
        logStage .info .linted "[PIPELINE] Lint succeeded" []
        let publication := Publication.decide requested true
        let stage ← conclude config tools publication
        return ({ commit, statusReport := config.statusReportPath, publication, stage } :
          RunReport))
        setting (recorded config tools setting files).files) (third ++ last) := by
    intro commit hcommit
    refine .bind (hl commit hcommit) fun _ _ => hv.bind_log ?_
    rw [← List.append_nil last]
    exact .bind hc fun _ _ => .pure _
  rw [stages]
  refine .bind hs fun _ _ => hv.bind_log ?_
  exact .bind hr fun commit hcommit => hv.bind_log (hlast commit hcommit)

end Run

end LocaleRelay
