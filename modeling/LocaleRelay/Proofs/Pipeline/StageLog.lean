import LocaleRelay.Proofs.Pipeline.StageEvents

/-!
# The stages that a run logs

The events that carry a stage spell one way through the machine of stages: from the start forward,
as far as the run came, to exactly one last stage. What comes before a failure tells which failure
it is, and the result of a run says what its events say. The tools may log what they like, as long
as they log no stage themselves.
-/

namespace LocaleRelay

open Files

/-! ### The machine -/

namespace Stage

/-- Whether a run ends at a stage. -/
def isLast : Stage → Bool
  | published | skipped | failed => true
  | start | synced | reported | linted => false

/-- Whether a stage may come right after another. Every stage but a last one may be followed by
failure. -/
def leadsTo : Stage → Stage → Bool
  | start, synced | synced, reported | reported, linted => true
  | linted, published | linted, skipped => true
  | stage, failed => !stage.isLast
  | _, _ => false

/-- A way through the machine: stages that are passed, none of them a last one, and the last stage
at which the way ends. -/
structure IsPath (passed : List Stage) (last : Stage) : Prop where
  first : passed.head? = some start
  chain : (passed ++ [last]).IsChain fun stage next => stage.leadsTo next
  ends : last.isLast
  goesOn : ∀ stage ∈ passed, ¬ stage.isLast

end Stage

/-- Whether a failure may end a run right after a stage: bringing the working copy up to date fails
after the start, and so on. -/
def RunFailure.mayFollow : RunFailure → Stage → Bool
  | .sync _, .start | .sync _, .synced => true
  | .write _ _, .synced | .write _ _, .reported => true
  | .lint _, .reported => true
  | .publish _, .linted => true
  | _, _ => false

namespace Run

variable {config : Config} {tools : Tools} {requested : Bool} {setting : Setting}
  {files : FileSystem}

/-! ### The row of a run, seen by its stages -/

/-- The event that the working copy is up to date. -/
def syncedEvent : Event := stageEvent .info .synced "[PIPELINE] Working copy is up to date" []

/-- The event that the report is begun. -/
def reportedEvent (commit : String) : Event :=
  stageEvent .info .reported "[PIPELINE] Status report initialised" [⟨"hash", .bare commit⟩]

/-- The event that lint passed. -/
def lintedEvent : Event := stageEvent .info .linted "[PIPELINE] Lint succeeded" []

/-- The event that ends a run that goes well. -/
def concludingEvent (config : Config) (requested : Bool) : Event :=
  if requested then
    stageEvent .info .published "[PIPELINE] Published" [⟨"remote", .bare config.deploymentRemote⟩]
  else stageEvent .info .skipped "[PIPELINE] Publish not requested, skipping push" []

/-- The stage at which a run ends that goes well. -/
def concludingStage (requested : Bool) : Stage := if requested then .published else .skipped

/-- The steps of a run, seen by the stages that it logs after the start. `commit` is the one that is
recorded. -/
def stageSteps (config : Config) (tools : Tools) (requested : Bool) (setting : Setting)
    (files : FileSystem) (commit : String) : List (Step RunFailure Event) :=
  [⟨[], (synced config tools setting files).failure?⟩,
    ⟨[syncedEvent], none⟩,
    ⟨[], (recorded config tools setting files).failure?⟩,
    ⟨[reportedEvent commit], none⟩,
    ⟨[], (linted config tools setting files).failure?⟩,
    ⟨[lintedEvent], none⟩,
    ⟨[], (concluded config tools requested setting files).failure?⟩,
    ⟨[concludingEvent config requested], none⟩]

private theorem follows_stageless {ε α : Type} {attempt : Attempt ε α}
    (h : attempt.Adds Entry.IsStageless) (setting : Setting) (files : FileSystem) :
    Follows Entry.stageEvent? (attempt.outcome setting files)
      [⟨[], (attempt.outcome setting files).failure?⟩] := by
  have hself := Follows.self Entry.stageEvent? (attempt.outcome setting files)
  rw [List.filterMap_eq_nil_iff.mpr (h setting files)] at hself
  exact hself

private theorem follows_bind_logStage {β : Type} {level : Level} {stage : Stage} {message : String}
    {fields : List Field} {next : Unit → Attempt RunFailure β}
    {steps : List (Step RunFailure Event)}
    (h : Follows Entry.stageEvent? ((next ()).outcome setting files) steps) :
    Follows Entry.stageEvent? (Attempt.outcome
      (liftM (logStage level stage message fields) >>= next) setting files)
      (⟨[stageEvent level stage message fields], none⟩ :: steps) := by
  have hlog : Follows (ε := RunFailure) Entry.stageEvent?
      (Attempt.outcome (liftM (logStage level stage message fields)) setting files)
      [⟨[stageEvent level stage message fields], none⟩] := ⟨rfl, rfl⟩
  exact hlog.bind fun _ _ => h

private theorem isStageless_remark (event : Event) (h : event.IsRemark) :
    (Entry.event event).IsStageless := Event.isStageless_of_fields h.2

private theorem adds_publish (h : tools.Reticent) :
    (publish config tools).Adds Entry.IsStageless := by
  have hask : (ask config tools).Adds Entry.IsStageless := adds_ask h.credentials h.push
  have hlisting : Listed.logHome.Adds Entry.IsStageless :=
    Listed.adds_logHome fun _ _ hfields => Event.isStageless_of_fields hfields
  rw [publish_eq]
  split
  · exact .bind_lift hlisting fun _ => hask
  · exact hask

private theorem follows_conclusion (h : tools.Reticent) :
    Follows Entry.stageEvent? (concluded config tools requested setting files)
      [⟨[], (concluded config tools requested setting files).failure?⟩,
        ⟨[concludingEvent config requested], none⟩] := by
  cases requested with
  | false => exact ⟨rfl, rfl⟩
  | true =>
    have hsilent : (publish config tools).Adds Entry.IsStageless := adds_publish h
    have hpublish := follows_stageless hsilent setting (linted config tools setting files).files
    have hrow : Follows Entry.stageEvent? (concluded config tools true setting files)
        [⟨[], ((publish config tools).outcome setting
            (linted config tools setting files).files).failure?⟩,
          ⟨[concludingEvent config true], none⟩] :=
      hpublish.bind fun _ _ => follows_bind_logStage (.pure _)
    have hfailure : (concluded config tools true setting files).failure? =
        ((publish config tools).outcome setting
          (linted config tools setting files).files).failure? := by
      rw [hrow.failure]
      cases ((publish config tools).outcome setting
        (linted config tools setting files).files).failure? <;> rfl
    rw [hfailure]
    exact hrow

private theorem follows_stages (h : tools.Reticent) {commit : String}
    (hcommit : ∀ found, (recorded config tools setting files).value = .ok found → found = commit) :
    Follows Entry.stageEvent? ((stages config tools requested).outcome setting files)
      (stageSteps config tools requested setting files commit) := by
  rw [stages]
  have hacquire : (acquire config tools).Adds Entry.IsStageless :=
    adds_acquire isStageless_remark h.isRepository h.pull h.clone
  have hrecord : (recordCommit config tools).Adds Entry.IsStageless :=
    adds_recordCommit isStageless_remark h.headCommit
  refine .bind (follows_stageless hacquire _ _) fun _ _ => follows_bind_logStage ?_
  refine .bind (follows_stageless hrecord _ _) fun found hfound => ?_
  obtain rfl := hcommit found hfound
  refine follows_bind_logStage ?_
  refine .bind (follows_stageless (adds_lint h.lint) _ _) fun _ _ => follows_bind_logStage ?_
  rw [← List.append_nil [_, _]]
  exact (follows_conclusion h).bind fun _ _ => .pure _

/-! ### What the stages of a run spell -/

/-- The events with a stage of a run, and its result, by the stages that the run passed and the one
at which it ended. `head` is what the question for the commit was answered. -/
structure Spells (config : Config) (requested : Bool) (head : Except ToolFailure String)
    (events : List Event) (result : Except RunFailure RunReport) (passed : List Stage)
    (last : Stage) : Prop where
  carries : List.Forall₂ Event.Carries events (passed ++ [last])
  path : Stage.IsPath passed last
  failed_iff : last = .failed ↔ ∃ failure, result = .error failure
  failure : ∀ failure, result = .error failure →
    (∃ stage, passed.getLast? = some stage ∧ failure.mayFollow stage = true) ∧
    ∃ event, events.getLast? = some event ∧
      event.field? "error" = some (.bare failure.message) ∧
      event.field? "exit_code" = some (.bare (toString failure.exitCode))
  hash : ∀ event ∈ events, event.Carries .reported →
    ∃ commit, head = .ok commit ∧ event.field? "hash" = some (.bare commit)
  report : ∀ report, result = .ok report →
    report.stage = last ∧ (report.publication = .publish ↔ last = .published) ∧
      (last = .published ↔ requested = true) ∧ .ok report.commit = head ∧
      report.statusReport = config.statusReportPath

/-- What a run was answered to the question for the commit, or would have been. -/
def headAnswer (config : Config) (tools : Tools) (setting : Setting) (files : FileSystem) :
    Except ToolFailure String :=
  ((tools.headCommit config.workingCopyPath).outcome setting
    (synced config tools setting files).files).value

private theorem carries_stageEvent (level : Level) (stage : Stage) (message : String)
    (fields : List Field) : (stageEvent level stage message fields).Carries stage := rfl

private theorem eq_of_carries {level : Level} {stage other : Stage} {message : String}
    {fields : List Field} (h : (stageEvent level stage message fields).Carries other) :
    stage = other := by
  have hname : stage.name = other.name := by
    rw [Event.Carries, carries_stageEvent] at h
    simpa using h
  cases stage <;> cases other <;> first | rfl | simp [Stage.name] at hname

private theorem Spells.inSpan {head : Except ToolFailure String} {events : List Event}
    {result : Except RunFailure RunReport} {passed : List Stage} {last : Stage}
    (h : Spells config requested head events result passed last) (span : Span) :
    Spells config requested head (events.map (Event.inSpan span)) result passed last where
  carries := List.forall₂_map_left_iff.mpr h.carries
  path := h.path
  failed_iff := h.failed_iff
  failure failure hf := by
    obtain ⟨hstage, event, hlast, htold⟩ := h.failure failure hf
    exact ⟨hstage, event.inSpan span, by rw [List.getLast?_map, hlast]; rfl, htold⟩
  hash event hmem hreported := by
    obtain ⟨told, htold, rfl⟩ := List.mem_map.mp hmem
    exact h.hash told htold hreported
  report := h.report

/-! ### How a run spells -/

private theorem mayFollow_start {failure : RunFailure}
    (h : (synced config tools setting files).value = .error failure) :
    failure.mayFollow .start = true := by
  rw [(synced_eq config tools setting files).1] at h
  obtain ⟨reason, -, rfl⟩ := mapError_eq_error h
  rfl

private theorem mayFollow_synced {failure : RunFailure}
    (h : (recorded config tools setting files).value = .error failure) :
    failure.mayFollow .synced = true := by
  have hrecords :=
    records_recordCommit config tools setting (synced config tools setting files).files
  rw [← recorded, h] at hrecords
  generalize (recorded config tools setting files).files = after at hrecords
  cases hrecords with
  | head hc => rfl
  | begin hc hb =>
    obtain ⟨place, fault, rfl⟩ := Report.write_of_begin_error hb
    rfl

private theorem mayFollow_reported {failure : RunFailure} {commit : String}
    (hr : (recorded config tools setting files).value = .ok commit)
    (h : (linted config tools setting files).value = .error failure) :
    failure.mayFollow .reported = true := by
  obtain ⟨place, node, -, -, hlinted⟩ := linted_eq hr
  rw [hlinted, Attempt.outcome_mapFailure] at h
  obtain ⟨reason, -, rfl⟩ := mapError_eq_error h
  rfl

private theorem mayFollow_linted {failure : RunFailure}
    (h : (concluded config tools requested setting files).value = .error failure) :
    failure.mayFollow .linted = true := by
  have hmap : ∀ {ε α : Type} {attempt : Attempt ε α} {f : ε → RunFailure} {files : FileSystem},
      (∀ reason, (f reason).mayFollow .linted = true) →
      ((attempt.mapFailure f).outcome setting files).value = .error failure →
      failure.mayFollow .linted = true := by
    intro ε α attempt f files hf h
    rw [Attempt.outcome_mapFailure] at h
    obtain ⟨reason, -, rfl⟩ := mapError_eq_error h
    exact hf reason
  have hask : ∀ {files : FileSystem}, (Attempt.outcome (do
        let vars ← tools.credentials.mapFailure RunFailure.publish
        (tools.push config.workingCopyPath config.deploymentRemote vars).mapFailure
          fun failure => .publish (.tool failure)) setting files).value = .error failure →
      failure.mayFollow .linted = true := by
    intro files h
    rcases Attempt.value_bind_eq_error h with h | ⟨vars, -, h⟩
    · exact hmap (fun _ => rfl) h
    · exact hmap (fun _ => rfl) h
  cases requested with
  | false => cases h
  | true =>
    rcases Attempt.value_bind_eq_error h with h | ⟨_, -, h⟩
    · rw [publish] at h
      split at h
      · rcases Attempt.value_bind_eq_error h with h | ⟨_, -, h⟩
        · rw [Attempt.outcome_lift] at h
          cases h
        · exact hask h
      · exact hask h
    · cases h

private theorem headAnswer_of_recorded {commit : String}
    (h : (recorded config tools setting files).value = .ok commit) :
    headAnswer config tools setting files = .ok commit := by
  have hrecords :=
    records_recordCommit config tools setting (synced config tools setting files).files
  rw [← recorded, h] at hrecords
  generalize (recorded config tools setting files).files = after at hrecords
  cases hrecords with
  | complete hc hb => exact hc

private theorem eq_concludingStage {stage : Stage}
    (h : (concluded config tools requested setting files).value = .ok stage) :
    stage = concludingStage requested := by
  cases requested with
  | false =>
    cases h
    rfl
  | true =>
    obtain ⟨_, -, h⟩ := Attempt.value_bind_eq_ok h
    cases h
    rfl

/-- An event that carries the second stage tells the commit that was found. -/
private def TellsHash (head : Except ToolFailure String) (event : Event) : Prop :=
  event.Carries .reported → ∃ commit, head = .ok commit ∧ event.field? "hash" = some (.bare commit)

private theorem tellsHash_of_ne {head : Except ToolFailure String} {level : Level} {stage : Stage}
    {message : String} {fields : List Field} (h : stage ≠ .reported) :
    TellsHash head (stageEvent level stage message fields) :=
  fun hcarries => absurd (eq_of_carries hcarries) h

private theorem tellsHash_unreported (head : Except ToolFailure String) :
    ∀ event ∈ [startEvent, syncedEvent], TellsHash head event :=
  List.forall_mem_cons.mpr ⟨tellsHash_of_ne (by decide),
    List.forall_mem_singleton.mpr (tellsHash_of_ne (by decide))⟩

private theorem tellsHash_reported {head : Except ToolFailure String} {commit : String}
    (h : head = .ok commit) :
    ∀ event ∈ [startEvent, syncedEvent, reportedEvent commit], TellsHash head event :=
  List.forall_mem_append.mpr
    ⟨tellsHash_unreported head, List.forall_mem_singleton.mpr fun _ => ⟨commit, h, rfl⟩⟩

private theorem tellsHash_linted {head : Except ToolFailure String} {commit : String}
    (h : head = .ok commit) :
    ∀ event ∈ [startEvent, syncedEvent, reportedEvent commit, lintedEvent],
      TellsHash head event :=
  List.forall_mem_append.mpr
    ⟨tellsHash_reported h, List.forall_mem_singleton.mpr (tellsHash_of_ne (by decide))⟩

private theorem spells_of_error {head : Except ToolFailure String} (told : List Event)
    {passed : List Stage} {stage : Stage} {failure : RunFailure}
    (hcarries : List.Forall₂ Event.Carries told passed) (hpath : Stage.IsPath passed .failed)
    (hlast : passed.getLast? = some stage) (hfailure : failure.mayFollow stage = true)
    (hhash : ∀ event ∈ told, TellsHash head event) :
    Spells config requested head (told ++ [failureEvent failure]) (.error failure) passed
      .failed where
  carries := List.rel_append hcarries (.cons (carries_stageEvent _ _ _ _) .nil)
  path := hpath
  failed_iff := ⟨fun _ => ⟨failure, rfl⟩, fun _ => rfl⟩
  failure other hother := by
    cases hother
    exact ⟨⟨stage, hlast, hfailure⟩, failureEvent failure, List.getLast?_concat, rfl, rfl⟩
  hash event hmem := by
    rcases List.mem_append.mp hmem with hmem | hmem
    · exact hhash event hmem
    · rw [List.mem_singleton.mp hmem]
      exact tellsHash_of_ne (by decide)
  report report hreport := by cases hreport

private theorem spells_of_ok {head : Except ToolFailure String} (told : List Event)
    {commit : String}
    (hcarries : List.Forall₂ Event.Carries told [.start, .synced, .reported, .linted])
    (hhead : head = .ok commit) (hhash : ∀ event ∈ told, TellsHash head event) :
    Spells config requested head (told ++ [concludingEvent config requested])
      (.ok ⟨commit, config.statusReportPath, Publication.decide requested true,
        concludingStage requested⟩)
      [.start, .synced, .reported, .linted] (concludingStage requested) where
  carries := by
    refine List.rel_append hcarries (.cons ?_ .nil)
    cases requested <;> rfl
  path := by cases requested <;> exact ⟨rfl, by decide, rfl, by decide⟩
  failed_iff := by cases requested <;> simp [concludingStage]
  failure failure hfailure := by cases hfailure
  hash event hmem := by
    rcases List.mem_append.mp hmem with hmem | hmem
    · exact hhash event hmem
    · rw [List.mem_singleton.mp hmem]
      cases requested <;> exact tellsHash_of_ne (by decide)
  report report hreport := by
    cases hreport
    refine ⟨rfl, ?_, ?_, hhead.symm, rfl⟩
    · cases requested <;> simp [Publication.decide, concludingStage]
    · cases requested <;> simp [concludingStage]

private theorem stageEvents_perform (config : Config) (h : tools.Reticent) (requested : Bool)
    (setting : Setting) (files : FileSystem) :
    Journal.stageEvents ((perform config tools requested).outcome setting files).entries =
      (startEvent :: (Steps.shown (stageSteps config tools requested setting files
          ((recorded config tools setting files).value.toOption.getD "")) ++
        closingEvents ((perform config tools requested).outcome setting files).value)).map
          (Event.inSpan ⟨requested⟩) := by
  have hclosing : ∀ result : Except RunFailure RunReport,
      Journal.stageEvents ((closingEvents result).map Entry.event) = closingEvents result := by
    intro result
    cases result <;> rfl
  have hshown :
      Journal.stageEvents ((stages config tools requested).outcome setting files).entries =
        Steps.shown (stageSteps config tools requested setting files
          ((recorded config tools setting files).value.toOption.getD "")) := by
    refine (follows_stages h fun found hfound => ?_).shown
    rw [hfound]
    rfl
  rw [entries_perform, Journal.stageEvents_within, (outcome_perform _ _ _ _ _).1,
    ← List.singleton_append, Journal.stageEvents_append, Journal.stageEvents_append, hclosing,
    hshown]
  rfl

/-- The events with a stage of a run spell a way through the machine that fits its result. -/
theorem spells_perform (config : Config) (h : tools.Reticent) (requested : Bool)
    (setting : Setting) (files : FileSystem) :
    ∃ passed last, Spells config requested (headAnswer config tools setting files)
      (Journal.stageEvents ((perform config tools requested).outcome setting files).entries)
      ((perform config tools requested).outcome setting files).value passed last := by
  have hends := ends_perform config tools requested setting files
  rw [stageEvents_perform config h, stageSteps]
  generalize ((perform config tools requested).outcome setting files).value = result,
    ((perform config tools requested).outcome setting files).files = after at hends
  -- One case for each stage that may fail, and the last one for a run that goes well.
  cases hends with
  | sync hs =>
    rw [Outcome.failure?, hs]
    refine ⟨[.start], .failed, Spells.inSpan ?_ _⟩
    exact spells_of_error [startEvent] (.cons rfl .nil) ⟨rfl, by decide, rfl, by decide⟩ rfl
      (mayFollow_start hs) (List.forall_mem_singleton.mpr (tellsHash_of_ne (by decide)))
  | record hs hr =>
    rw [Outcome.failure?, hs, Outcome.failure?, hr]
    refine ⟨[.start, .synced], .failed, Spells.inSpan ?_ _⟩
    exact spells_of_error [startEvent, syncedEvent] (.cons rfl (.cons rfl .nil))
      ⟨rfl, by decide, rfl, by decide⟩ rfl (mayFollow_synced hr) (tellsHash_unreported _)
  | lint hs hr hl =>
    have hhead := headAnswer_of_recorded hr
    rw [Outcome.failure?, hs, Outcome.failure?, hr, Outcome.failure?, hl]
    refine ⟨[.start, .synced, .reported], .failed, Spells.inSpan ?_ _⟩
    exact spells_of_error [startEvent, syncedEvent, reportedEvent _]
      (.cons rfl (.cons rfl (.cons rfl .nil))) ⟨rfl, by decide, rfl, by decide⟩ rfl
      (mayFollow_reported hr hl) (tellsHash_reported hhead)
  | conclude hs hr hl hc =>
    have hhead := headAnswer_of_recorded hr
    rw [Outcome.failure?, hs, Outcome.failure?, hr, Outcome.failure?, hl, Outcome.failure?, hc]
    refine ⟨[.start, .synced, .reported, .linted], .failed, Spells.inSpan ?_ _⟩
    exact spells_of_error [startEvent, syncedEvent, reportedEvent _, lintedEvent]
      (.cons rfl (.cons rfl (.cons rfl (.cons rfl .nil)))) ⟨rfl, by decide, rfl, by decide⟩ rfl
      (mayFollow_linted hc) (tellsHash_linted hhead)
  | complete hs hr hl hc =>
    have hhead := headAnswer_of_recorded hr
    rw [Outcome.failure?, hs, Outcome.failure?, hr, Outcome.failure?, hl, Outcome.failure?, hc,
      eq_concludingStage hc]
    refine ⟨[.start, .synced, .reported, .linted], concludingStage requested, Spells.inSpan ?_ _⟩
    exact spells_of_ok [startEvent, syncedEvent, reportedEvent _, lintedEvent]
      (.cons rfl (.cons rfl (.cons rfl (.cons rfl .nil)))) hhead (tellsHash_linted hhead)

/-! ### Runs in a row -/

/-- A run that is to be made, and the setting that it finds. -/
structure Plan where
  config : Config
  tools : Tools
  requested : Bool
  setting : Setting

/-- What a planned run leaves. -/
def Plan.outcome (plan : Plan) (files : FileSystem) : Outcome (Except RunFailure RunReport) :=
  (perform plan.config plan.tools plan.requested).outcome plan.setting files

/-- The journal of planned runs in a row. -/
def journal : List Plan → FileSystem → List Entry
  | [], _ => []
  | plan :: rest, files => (plan.outcome files).entries ++ journal rest (plan.outcome files).files

/-- Events that are those of runs in a row, each of which spells one way through the machine. -/
inductive SpellInTurn : List Plan → FileSystem → List Event → Prop
  | nil {files : FileSystem} : SpellInTurn [] files []
  | cons {plan : Plan} {rest : List Plan} {files : FileSystem} {events more : List Event}
    {passed : List Stage} {last : Stage}
    (he : events = Journal.stageEvents (plan.outcome files).entries)
    (h : Spells plan.config plan.requested
      (headAnswer plan.config plan.tools plan.setting files) events (plan.outcome files).value
      passed last)
    (hr : SpellInTurn rest (plan.outcome files).files more) :
    SpellInTurn (plan :: rest) files (events ++ more)

/-- Whatever the tools answer and do, as long as they log no stage themselves: every run spells one
way through the machine, with its failure and its result as the way says, and runs in a row spell
one way each. -/
theorem spellInTurn_journal (plans : List Plan) (h : ∀ plan ∈ plans, plan.tools.Reticent)
    (files : FileSystem) :
    SpellInTurn plans files (Journal.stageEvents (journal plans files)) := by
  induction plans generalizing files with
  | nil => exact .nil
  | cons plan rest ih =>
    obtain ⟨hplan, hrest⟩ := List.forall_mem_cons.mp h
    obtain ⟨passed, last, hspells⟩ :=
      spells_perform plan.config hplan plan.requested plan.setting files
    rw [journal, Journal.stageEvents_append]
    exact .cons rfl hspells (ih hrest _)

/-- A run with scripted tools whose linter fails, and then one with processes that all end well. -/
theorem spellInTurn_journal_scripted_processes :
    let script : Script :=
      { isRepository := true, clone := .ok (), pull := .ok (), head := .ok "4f1c",
        lintOutput := "3 warnings\n".toUTF8, lint := .error (.exit "make lint" (some 2)),
        credentials := .ok .none, push := .ok () }
    let host : Host := fun _ => ⟨[⟨.output, "4f1d\n".toUTF8⟩], id, .exited 0⟩
    let setting : Setting := ⟨some (utf8 "/home/relay"), ⟨[("PATH", "/bin")]⟩, fun _ => 4096⟩
    let plans : List Plan :=
      [⟨Config.builtIn, script.tools.editing fun _ files => files, true, setting⟩,
        ⟨Config.builtIn, Config.builtIn.tools host, false, setting⟩]
    let files : FileSystem := ⟨.directory [], []⟩
    (∀ plan ∈ plans, plan.tools.Reticent) ∧
      SpellInTurn plans files (Journal.stageEvents (journal plans files)) := by
  intro script host setting plans files
  have hplans : ∀ plan ∈ plans, plan.tools.Reticent :=
    List.forall_mem_cons.mpr ⟨script.reticent_tools fun _ files => files,
      List.forall_mem_singleton.mpr (Config.builtIn.reticent_tools host)⟩
  exact ⟨hplans, spellInTurn_journal plans hplans files⟩

end Run

end LocaleRelay
