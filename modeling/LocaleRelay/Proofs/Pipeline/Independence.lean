import LocaleRelay.Proofs.Pipeline.StageLog

/-!
# What publishing cannot influence

Up to the end of linting a run looks at nothing that only publishing needs: not at the order to
publish, the repository to publish to, the key, the home directory or the answers of the tools that
publish. Two runs that differ in these alone make the same requests and log the same events up to
that point, leave the same files, and fail before it with the same failure or not at all. Two runs
that are not to publish are the same throughout.
-/

namespace LocaleRelay

open Files

/-! ### Attempts that ignore their setting -/

/-- An attempt that does the same in every setting. -/
def Attempt.IgnoresSetting {ε α : Type} (attempt : Attempt ε α) : Prop :=
  ∀ setting other files, attempt.outcome setting files = attempt.outcome other files

namespace Attempt.IgnoresSetting

variable {ε δ α β : Type}

/-- A result is the same in every setting. -/
theorem pure (a : α) : IgnoresSetting (Pure.pure a : Attempt ε α) := fun _ _ _ => rfl

/-- A failure is the same in every setting. -/
theorem throw (failure : ε) : IgnoresSetting (throw failure : Attempt ε α) := fun _ _ _ => rfl

/-- An action that ignores its setting ignores it as an attempt. -/
theorem lift {act : Act α}
    (h : ∀ setting other files, act.run setting files = act.run other files) :
    IgnoresSetting (ε := ε) (liftM act) := by
  intro setting other files
  rw [outcome_lift, outcome_lift, h setting other]

/-- Attempts that ignore the setting ignore it one after the other. -/
theorem bind {first : Attempt ε α} {next : α → Attempt ε β} (hf : IgnoresSetting first)
    (hn : ∀ a, IgnoresSetting (next a)) : IgnoresSetting (first >>= next) := by
  intro setting other files
  have hsame := hf setting other files
  cases hv : (first.outcome other files).value with
  | ok a =>
    rw [outcome_bind_ok (hsame ▸ hv), outcome_bind_ok hv, hsame, hn a setting other]
  | error failure => rw [outcome_bind_error (hsame ▸ hv), outcome_bind_error hv, hsame]

/-- An action that ignores its setting, and then an attempt that does. -/
theorem bind_lift {act : Act α} {next : α → Attempt ε β}
    (ha : ∀ setting other files, act.run setting files = act.run other files)
    (hn : ∀ a, IgnoresSetting (next a)) : IgnoresSetting (liftM act >>= next : Attempt ε β) :=
  bind (lift ha) hn

/-- What a failure is told as does not depend on the setting. -/
theorem mapFailure {attempt : Attempt ε α} (f : ε → δ) (h : IgnoresSetting attempt) :
    IgnoresSetting (attempt.mapFailure f) := by
  intro setting other files
  rw [outcome_mapFailure, outcome_mapFailure, h setting other]

/-- A change of the files does not depend on the setting. -/
theorem change (f : FileSystem → Except ε FileSystem) : IgnoresSetting (Attempt.change f) := by
  intro setting other files
  rw [outcome_change, outcome_change]

/-- The directories that are made do not depend on the setting. -/
theorem makeAll (path : RawPath) (refuse : Fault → ε) :
    IgnoresSetting (Attempt.makeAll path refuse) := by
  intro setting other files
  rw [outcome_makeAll, outcome_makeAll]

end Attempt.IgnoresSetting

/-- Beginning a report is the same in every setting. -/
theorem Report.ignoresSetting_begin (path : RawPath) (commit : String) :
    (Report.begin path commit).IgnoresSetting := by
  have hdirectory : (Report.makeDirectory path).IgnoresSetting := by
    rw [Report.makeDirectory]
    split
    · exact .makeAll _ _
    · exact .pure _
  exact .bind hdirectory fun _ => .bind (.change _) fun _ => .lift fun _ _ _ => rfl

/-- Opening a report is the same in every setting. -/
theorem Report.ignoresSetting_openAppend (path : RawPath) :
    (Report.openAppend path).IgnoresSetting := by
  refine .bind_lift (fun _ _ _ => rfl) fun files => ?_
  split
  · exact .pure _
  · exact .throw _

/-! ### What two runs have in common -/

namespace Journal

/-- A list up to its first element of a kind, this one included. -/
def upTo {α : Type} (last : α → Bool) : List α → List α
  | [] => []
  | a :: rest => if last a then [a] else a :: upTo last rest

/-- What comes after an element of the kind does not matter. -/
theorem upTo_append {α : Type} {last : α → Bool} {first : List α} (h : ∃ a ∈ first, last a)
    (second : List α) : upTo last (first ++ second) = upTo last first := by
  induction first with
  | nil => simp at h
  | cons a rest ih =>
    rw [List.cons_append, upTo, upTo]
    split
    · rfl
    · next ha =>
      obtain ⟨b, hmem, hb⟩ := h
      rcases List.mem_cons.mp hmem with rfl | hmem
      · exact absurd hb ha
      · rw [ih ⟨b, hmem, hb⟩]

end Journal

/-- A request that comes up only when a run publishes. -/
def Request.isPublishing : Request → Bool
  | .credentials | .push _ _ _ => true
  | .isRepository _ | .clone _ _ | .pull _ _ | .headCommit _ | .lint => false

/-- Changes of the files, but for those with requests that come up when a run publishes. -/
def untilPublishing (edit : Request → FileSystem → FileSystem) (request : Request)
    (files : FileSystem) : FileSystem :=
  if request.isPublishing then files else edit request files

instance (event : Event) (stage : Stage) : Decidable (event.Carries stage) :=
  inferInstanceAs (Decidable (_ = _))

namespace Event

/-- An event without the span that it was made in. The span tells whether its run was asked to
publish, so it is the one thing in which the events of two runs may differ from the start. -/
def unspanned (event : Event) : Event := { event with span := none }

/-- Whether an event ends what a run does before it comes to publishing. -/
def endsOpening (event : Event) : Bool := event.Carries .linted ∨ event.Carries .failed

end Event

namespace Run

/-- Two runs that differ at most in what publishing needs. -/
structure AgreeUntilPublishing (config other : Config) (script otherScript : Script) : Prop where
  workingCopyPath : config.workingCopyPath = other.workingCopyPath
  statusReportPath : config.statusReportPath = other.statusReportPath
  sourceRemote : config.sourceRemote = other.sourceRemote
  isRepository : script.isRepository = otherScript.isRepository
  clone : script.clone = otherScript.clone
  pull : script.pull = otherScript.pull
  head : script.head = otherScript.head
  lintOutput : script.lintOutput = otherScript.lintOutput
  lint : script.lint = otherScript.lint

/-- The events of a run, without their span. -/
def told (run : Outcome (Except RunFailure RunReport)) : List Event :=
  (Journal.events run.entries).map Event.unspanned

/-- A run that fails before lint has passed. -/
def FailsUnlinted (run : Outcome (Except RunFailure RunReport)) (failure : RunFailure) : Prop :=
  run.value = .error failure ∧ ∀ event ∈ told run, ¬ event.Carries .linted

/-- Two runs that are the same until one of them may publish. They make the same requests up to and
including the one to lint, log the same events until lint has passed or the run has failed, leave
the same files, and fail alike before lint has passed. -/
structure SameUntilPublishing (run other : Outcome (Except RunFailure RunReport)) : Prop where
  requests : Journal.upTo (· = .lint) (Journal.requests run.entries) =
    Journal.upTo (· = .lint) (Journal.requests other.entries)
  events : Journal.upTo Event.endsOpening (told run) = Journal.upTo Event.endsOpening (told other)
  files : run.files = other.files
  failure : ∀ failure, FailsUnlinted run failure ↔ FailsUnlinted other failure

/-! ### A run before and after lint has passed -/

variable {config other : Config} {tools : Tools} {script otherScript : Script}
  {requested : Bool} {setting : Setting} {files : FileSystem}
  {edit : Request → FileSystem → FileSystem}

/-- The stages of a run until lint has passed. -/
def untilLinted (config : Config) (tools : Tools) : Attempt RunFailure String := do
  acquire config tools
  logStage .info .synced "[PIPELINE] Working copy is up to date" []
  let commit ← recordCommit config tools
  logStage .info .reported "[PIPELINE] Status report initialised" [⟨"hash", .bare commit⟩]
  lint config tools
  logStage .info .linted "[PIPELINE] Lint succeeded" []
  return commit

/-- The last stage of a run, for the commit that was linted. -/
def afterLinted (config : Config) (tools : Tools) (requested : Bool) (commit : String) :
    Attempt RunFailure RunReport := do
  let publication := Publication.decide requested true
  let stage ← conclude config tools publication
  return { commit, statusReport := config.statusReportPath, publication, stage }

/-- A run is what it does until lint has passed, and then the last stage. -/
theorem stages_eq (config : Config) (tools : Tools) (requested : Bool) :
    stages config tools requested =
      untilLinted config tools >>= afterLinted config tools requested := by
  simp only [stages, untilLinted, afterLinted, bind_assoc, pure_bind]

/-- Until lint has passed, runs that agree until publishing do the same. -/
theorem untilLinted_congr (h : AgreeUntilPublishing config other script otherScript) :
    untilLinted config (script.tools.editing edit) =
      untilLinted other (otherScript.tools.editing edit) := by
  simp only [untilLinted, acquire, recordCommit, Run.lint, Tools.editing, Script.tools,
    h.workingCopyPath, h.statusReportPath, h.sourceRemote, h.isRepository, h.clone, h.pull, h.head,
    h.lintOutput, h.lint]

/-- Until lint has passed, a run does not look at its setting. -/
theorem ignoresSetting_untilLinted (config : Config) (script : Script)
    (edit : Request → FileSystem → FileSystem) :
    (untilLinted config (script.tools.editing edit)).IgnoresSetting := by
  have hanswer : ∀ {ε α : Type} (request : Request) (given : Except ε α)
      (edit : FileSystem → FileSystem),
      ((Script.answer request given).afterwards edit).IgnoresSetting :=
    fun _ _ _ _ _ _ => rfl
  have hacquire : (acquire config (script.tools.editing edit)).IgnoresSetting := by
    refine .bind_lift (fun _ _ _ => rfl) fun present => ?_
    split
    · exact .bind_lift (fun _ _ _ => rfl) fun _ => (hanswer _ _ _).mapFailure _
    · exact .bind_lift (fun _ _ _ => rfl) fun _ => (hanswer _ _ _).mapFailure _
  have hrecord : (recordCommit config (script.tools.editing edit)).IgnoresSetting :=
    .bind ((hanswer _ _ _).mapFailure _) fun _ =>
      .bind (Report.ignoresSetting_begin _ _) fun _ => .pure _
  have hlint : (Run.lint config (script.tools.editing edit)).IgnoresSetting :=
    .bind (Report.ignoresSetting_openAppend _) fun sink => .mapFailure _ fun _ _ _ => rfl
  refine .bind hacquire fun _ => .bind_lift (fun _ _ _ => rfl) fun _ => ?_
  refine .bind hrecord fun _ => .bind_lift (fun _ _ _ => rfl) fun _ => ?_
  exact .bind hlint fun _ => .bind_lift (fun _ _ _ => rfl) fun _ => .pure _

/-- Where lint has passed, that is logged. -/
theorem notes_lintedEvent (config : Config) (tools : Tools) :
    (untilLinted config tools).Notes (.event lintedEvent) := by
  have hlinted : Attempt.Notes (.event lintedEvent) (liftM (logStage .info .linted
      "[PIPELINE] Lint succeeded" []) : Attempt RunFailure Unit) := by
    intro setting files _ _
    rw [Attempt.outcome_lift]
    exact List.mem_singleton_self _
  exact .bind_right fun _ => .bind_right fun _ => .bind_right fun _ => .bind_right fun _ =>
    .bind_right fun _ => .bind_left hlinted

private theorem notes_lint (config : Config) (script : Script)
    (edit : Request → FileSystem → FileSystem) :
    (untilLinted config (script.tools.editing edit)).Notes (.request .lint) := by
  have hlint : (Run.lint config (script.tools.editing edit)).Notes (.request .lint) := by
    refine .bind_right fun sink => .mapFailure _ fun setting files _ _ => ?_
    rw [Script.outcome_lint_editing]
    exact List.mem_singleton_self _
  exact .bind_right fun _ => .bind_right fun _ => .bind_right fun _ => .bind_right fun _ =>
    .bind_left hlint

private theorem keeps_afterLinted (hc : tools.credentials.Keeps)
    (hp : ∀ path remote vars, (tools.push path remote vars).Keeps) (commit : String) :
    (afterLinted config tools requested commit).Keeps := by
  have hask : (ask config tools).Keeps := .bind (hc.mapFailure _) fun _ => (hp _ _ _).mapFailure _
  have hpublish : (publish config tools).Keeps := by
    rw [publish_eq]
    split
    · exact .bind (.lift fun setting files => (Listed.idle_logHome setting files).1) fun _ => hask
    · exact hask
  refine .bind ?_ fun stage => .pure _
  cases requested with
  | false => exact .bind (.lift fun _ _ => rfl) fun _ => .pure _
  | true => exact .bind hpublish fun _ => .bind (.lift fun _ _ => rfl) fun _ => .pure _

/-! ### How a run opens -/

/-- The events of a run up to the end of linting, by what the run does until then. -/
def openingEvents (opening : Outcome (Except RunFailure String)) : List Event :=
  (startEvent :: (Journal.events opening.entries ++ opening.failure?.toList.map failureEvent)).map
    Event.unspanned

/-- A run that does something until lint has passed, whatever it does then. -/
structure OpensWith (opening : Outcome (Except RunFailure String))
    (run : Outcome (Except RunFailure RunReport)) : Prop where
  requests : Journal.upTo (· = .lint) (Journal.requests run.entries) =
    Journal.upTo (· = .lint) (Journal.requests opening.entries)
  events : Journal.upTo Event.endsOpening (told run) =
    Journal.upTo Event.endsOpening (openingEvents opening)
  files : run.files = opening.files
  failure : ∀ failure, FailsUnlinted run failure ↔ opening.value = .error failure ∧
    ∀ event ∈ openingEvents opening, ¬ event.Carries .linted

/-- Runs that open in the same way are the same until publishing. -/
theorem OpensWith.same {opening : Outcome (Except RunFailure String)}
    {run otherRun : Outcome (Except RunFailure RunReport)} (h : OpensWith opening run)
    (ho : OpensWith opening otherRun) : SameUntilPublishing run otherRun where
  requests := h.requests.trans ho.requests.symm
  events := h.events.trans ho.events.symm
  files := h.files.trans ho.files.symm
  failure failure := (h.failure failure).trans (ho.failure failure).symm

/-- Around its stages a run makes no request. -/
theorem requests_perform (config : Config) (tools : Tools) (requested : Bool)
    (setting : Setting) (files : FileSystem) :
    Journal.requests ((perform config tools requested).outcome setting files).entries =
      Journal.requests ((stages config tools requested).outcome setting files).entries := by
  have hclosing : ((closingEvents ((stages config tools requested).outcome setting files).value).map
      Entry.event).filterMap Entry.request? = [] := passesEvents_request?.filterMap_events (by simp)
  rw [Journal.requests, entries_perform, passesEvents_request?.filterMap_within,
    List.filterMap_cons_none rfl, List.filterMap_append, hclosing, List.append_nil,
    Journal.requests]

private theorem told_perform (config : Config) (tools : Tools) (requested : Bool)
    (setting : Setting) (files : FileSystem) :
    told ((perform config tools requested).outcome setting files) =
      (startEvent :: (Journal.events ((stages config tools requested).outcome setting
        files).entries ++ closingEvents ((stages config tools requested).outcome setting
          files).value)).map Event.unspanned := by
  have hwithin : ∀ entries : List Entry,
      (Journal.events (entries.map (Entry.within ⟨requested⟩))).map Event.unspanned =
        (Journal.events entries).map Event.unspanned := by
    intro entries
    rw [Journal.events, List.filterMap_map, List.map_filterMap, Journal.events, List.map_filterMap]
    congr 1
    ext1 entry
    cases entry <;> rfl
  have hclosing : ∀ events : List Event, Journal.events (events.map Entry.event) = events := by
    intro events
    rw [Journal.events, List.filterMap_map]
    exact List.filterMap_some
  rw [told, entries_perform, hwithin, ← List.singleton_append, Journal.events_append,
    Journal.events_append, hclosing]
  rfl

/-- Every run opens with what it does until lint has passed. -/
theorem opensWith_perform (config : Config) (script : Script)
    (edit : Request → FileSystem → FileSystem) (requested : Bool) (setting : Setting)
    (files : FileSystem) :
    OpensWith ((untilLinted config (script.tools.editing (untilPublishing edit))).outcome setting
        files)
      ((perform config (script.tools.editing (untilPublishing edit)) requested).outcome setting
        files) := by
  set tools := script.tools.editing (untilPublishing edit) with htools
  set opening := (untilLinted config tools).outcome setting files with hopening
  obtain ⟨hvalue, hfiles⟩ := outcome_perform config tools requested setting files
  have hrequests := requests_perform config tools requested setting files
  have htold := told_perform config tools requested setting files
  rw [stages_eq] at hvalue hfiles hrequests htold
  cases ho : opening.value with
  | error failure =>
    rw [Attempt.outcome_bind_error ho] at hvalue hfiles hrequests htold
    have hall : told ((perform config tools requested).outcome setting files) =
        openingEvents opening := by
      rw [htold, openingEvents, Outcome.failure?, ho]
      rfl
    refine ⟨by rw [hrequests], by rw [hall], hfiles, fun other => ?_⟩
    rw [FailsUnlinted, hall, hvalue, ho]
    simp
  | ok commit =>
    rw [Attempt.outcome_bind_ok ho, ← hopening] at hvalue hfiles hrequests htold
    have hlint := notes_lint config script (untilPublishing edit)
    have hlinted := notes_lintedEvent config tools
    have hrequest : Request.lint ∈ Journal.requests opening.entries :=
      List.mem_filterMap.mpr ⟨_, hlint setting files commit ho, rfl⟩
    have hevent : lintedEvent ∈ openingEvents opening := by
      have hmem : lintedEvent ∈ Journal.events opening.entries :=
        List.mem_filterMap.mpr ⟨_, hlinted setting files commit ho, rfl⟩
      exact List.mem_map.mpr ⟨_, List.mem_cons_of_mem _ (List.mem_append_left _ hmem), rfl⟩
    have hall : openingEvents opening <+:
        told ((perform config tools requested).outcome setting files) := by
      rw [htold, openingEvents, Outcome.failure?, ho, Journal.events_append]
      simp [failureOf]
    obtain ⟨rest, hrest⟩ := hall
    refine ⟨?_, ?_, hfiles.trans ?_, fun other => ?_⟩
    · rw [hrequests, Journal.requests_append, Journal.upTo_append ⟨_, hrequest, by decide⟩]
    · rw [← hrest, Journal.upTo_append ⟨_, hevent, by decide⟩]
    · exact keeps_afterLinted (fun _ _ => rfl) (fun _ _ _ _ _ => rfl) commit setting opening.files
    · constructor
      · rintro ⟨-, hnone⟩
        exact absurd rfl (hnone lintedEvent (hrest ▸ List.mem_append_left _ hevent))
      · rintro ⟨hother, -⟩
        rw [ho] at hother
        cases hother

private theorem afterLinted_skip_congr
    (h : AgreeUntilPublishing config other script otherScript) :
    afterLinted config (script.tools.editing edit) false =
      afterLinted other (otherScript.tools.editing edit) false := by
  funext commit
  rw [afterLinted, afterLinted, h.statusReportPath]
  rfl

private theorem ignoresSetting_afterLinted_skip (config : Config) (tools : Tools)
    (commit : String) :
    (afterLinted config tools false commit).IgnoresSetting :=
  .bind (.bind_lift (fun _ _ _ => rfl) fun _ => .pure _) fun _ => .pure _

/-- Two runs from the same files that differ at most in what publishing needs are the same until
one of them may publish, whatever the tools do to the files before that. Without an order to publish
they are the same throughout. -/
theorem sameUntilPublishing_perform (h : AgreeUntilPublishing config other script otherScript)
    (edit : Request → FileSystem → FileSystem) (requested otherRequested : Bool)
    (setting otherSetting : Setting) (files : FileSystem) :
    let run := (perform config (script.tools.editing (untilPublishing edit)) requested).outcome
      setting files
    let otherRun := (perform other (otherScript.tools.editing (untilPublishing edit))
      otherRequested).outcome otherSetting files
    SameUntilPublishing run otherRun ∧
      (requested = false → otherRequested = false → run = otherRun) := by
  intro run otherRun
  have hsame : (untilLinted config (script.tools.editing (untilPublishing edit))).outcome setting
      files = (untilLinted other (otherScript.tools.editing (untilPublishing edit))).outcome
        otherSetting files := by
    rw [untilLinted_congr h, ignoresSetting_untilLinted other otherScript _ setting otherSetting]
  have hrun := opensWith_perform config script edit requested setting files
  rw [hsame] at hrun
  have hother := opensWith_perform other otherScript edit otherRequested otherSetting files
  refine ⟨hrun.same hother, ?_⟩
  rintro rfl rfl
  apply perform_congr
  rw [stages_eq, stages_eq, untilLinted_congr h, afterLinted_skip_congr h]
  exact Attempt.IgnoresSetting.bind (ignoresSetting_untilLinted other otherScript _)
    (ignoresSetting_afterLinted_skip other _) setting otherSetting files

/-- A run that publishes with a key, and one that is to publish elsewhere, from another home
directory, and has no key. Each request before that has written a file. -/
theorem sameUntilPublishing_perform_without_key :
    let other : Config :=
      { Config.builtIn with
        deploymentRemote := "elsewhere", sshKeyPath := "~/.ssh/lost", listHomeBeforePush := false }
    let script : Script :=
      { isRepository := false, clone := .ok (), pull := .ok (), head := .ok "4f1c",
        lintOutput := "no warnings\n".toUTF8, lint := .ok (), credentials := .ok .none,
        push := .ok () }
    let otherScript : Script :=
      { script with credentials := .error (.keyNotFound (utf8 "/root/.ssh/lost")) }
    let edit : Request → FileSystem → FileSystem := fun _ files =>
      (files.write (utf8 "messages.po") "msgid".toUTF8).toOption.getD files
    let run := (perform Config.builtIn (script.tools.editing (untilPublishing edit)) true).outcome
      ⟨some (utf8 "/home/relay"), ⟨[]⟩, fun _ => 4096⟩ ⟨.directory [], []⟩
    let otherRun := (perform other (otherScript.tools.editing (untilPublishing edit)) true).outcome
      ⟨some (utf8 "/root"), ⟨[]⟩, fun _ => 4096⟩ ⟨.directory [], []⟩
    AgreeUntilPublishing Config.builtIn other script otherScript ∧
      SameUntilPublishing run otherRun := by
  intro other script otherScript edit run otherRun
  have hagree : AgreeUntilPublishing Config.builtIn other script otherScript := by
    constructor <;> rfl
  exact ⟨hagree, (sameUntilPublishing_perform hagree edit true true _ _ _).1⟩

end Run

end LocaleRelay
