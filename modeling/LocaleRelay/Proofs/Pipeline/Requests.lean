import LocaleRelay.Proofs.Pipeline.Rows

/-!
# The requests of a run

Scripted tools may change the files with each request in any way. Whatever they answer, a run makes
its requests in one order, each of them once, and none after a failure; it publishes with the
credentials that it was given, and only where it was asked to and everything before went well.
-/

namespace LocaleRelay

open Files

/-- An attempt after which the files are changed, however it ended. -/
def Attempt.afterwards {ε α : Type} (edit : FileSystem → FileSystem) (attempt : Attempt ε α) :
    Attempt ε α :=
  ExceptT.mk do
    let result ← attempt.run
    Act.setFiles (edit (← Act.files))
    return result

/-- Tools that change the files with each request, besides what they do. -/
def Tools.editing (tools : Tools) (edit : Request → FileSystem → FileSystem) : Tools where
  isRepository path := do
    let present ← tools.isRepository path
    Act.setFiles (edit (.isRepository path) (← Act.files))
    return present
  clone remote path := (tools.clone remote path).afterwards (edit (.clone remote path))
  pull path remote := (tools.pull path remote).afterwards (edit (.pull path remote))
  headCommit path := (tools.headCommit path).afterwards (edit (.headCommit path))
  lint sink := (tools.lint sink).afterwards (edit .lint)
  credentials := tools.credentials.afterwards (edit .credentials)
  push path remote vars := (tools.push path remote vars).afterwards (edit (.push path remote vars))

/-- What an attempt leaves when the files are changed afterwards. -/
theorem Attempt.outcome_afterwards {ε α : Type} (edit : FileSystem → FileSystem)
    (attempt : Attempt ε α) (setting : Setting) (files : FileSystem) :
    (attempt.afterwards edit).outcome setting files =
      { attempt.outcome setting files with
        files := edit (attempt.outcome setting files).files } := by
  rw [afterwards, outcome_mk]
  simp [run_run]

namespace Script

variable {script : Script} {config : Config} {edit : Request → FileSystem → FileSystem}
  {requested : Bool} {setting : Setting} {files : FileSystem}

/-! ### What a script says about a run -/

/-- The failure by which a run ends where a request is answered badly. -/
def failure? (script : Script) : Request → Option RunFailure
  | .isRepository _ => none
  | .clone _ _ => (failureOf script.clone).map .sync
  | .pull _ _ => (failureOf script.pull).map .sync
  | .headCommit _ => (failureOf script.head).map .sync
  | .lint => (failureOf script.lint).map .lint
  | .credentials => (failureOf script.credentials).map .publish
  | .push _ _ _ => (failureOf script.push).map fun failure => .publish (.tool failure)

/-- The request that brings the working copy up to date. -/
def syncRequest (script : Script) (config : Config) : Request :=
  if script.isRepository then .pull config.workingCopyPath config.sourceRemote
  else .clone config.sourceRemote config.workingCopyPath

/-- The requests up to the beginning of the report. -/
def opening (script : Script) (config : Config) : List Request :=
  [.isRepository config.workingCopyPath, script.syncRequest config,
    .headCommit config.workingCopyPath]

/-- The request to publish, where there are credentials for it. -/
def pushRequests (script : Script) (config : Config) : List Request :=
  match script.credentials with
  | .ok vars => [.push config.workingCopyPath config.deploymentRemote vars]
  | .error _ => []

/-- The requests from then on. -/
def closing (script : Script) (config : Config) (requested : Bool) : List Request :=
  .lint :: if requested then .credentials :: script.pushRequests config else []

/-- The requests of a run that goes well, in order. -/
def path (script : Script) (config : Config) (requested : Bool) : List Request :=
  script.opening config ++ script.closing config requested

/-- What beginning the report leaves, if it comes to that. -/
def begun? (script : Script) (config : Config) (edit : Request → FileSystem → FileSystem)
    (setting : Setting) (files : FileSystem) : Option (Outcome (Except RunFailure Unit)) :=
  match script.head with
  | .ok commit => some ((Report.begin config.statusReportPath commit).outcome setting
      ((script.opening config).foldl (fun files request => edit request files) files))
  | .error _ => none

/-- The report is begun: there is a commit, and the header is written. -/
def Begins (script : Script) (config : Config) (edit : Request → FileSystem → FileSystem)
    (setting : Setting) (files : FileSystem) : Prop :=
  ∃ begun, script.begun? config edit setting files = some begun ∧ begun.value = .ok ()

/-- The requests and the result of a run are those that the answers decide. The requests come in
order, none is made twice, and one that fails is the last. Publishing takes a run that was asked to
and went well so far. A run goes well if it makes all of its requests and every answer is good; else
it fails with its last request or with its report. -/
structure Decides (script : Script) (config : Config) (requested : Bool) (begins : Prop)
    (run : Outcome (Except RunFailure RunReport)) : Prop where
  order : Journal.requests run.entries <+: script.path config requested
  once : (Journal.requests run.entries).Nodup
  earlier : (Journal.requests run.entries).Pairwise fun request _ => script.failure? request = none
  lint : .lint ∈ Journal.requests run.entries → begins
  push_iff : ∀ path remote vars, .push path remote vars ∈ Journal.requests run.entries ↔
    requested = true ∧ path = config.workingCopyPath ∧ remote = config.deploymentRemote ∧
      script.failure? (script.syncRequest config) = none ∧
      script.failure? (.headCommit config.workingCopyPath) = none ∧ begins ∧
      script.failure? .lint = none ∧ script.credentials = .ok vars
  unrequested : requested = false → .credentials ∉ Journal.requests run.entries ∧
    ∀ path remote vars, .push path remote vars ∉ Journal.requests run.entries
  ok_iff : (∃ report, run.value = .ok report) ↔
    Journal.requests run.entries = script.path config requested ∧
      ∀ request ∈ script.path config requested, script.failure? request = none
  failure : ∀ failure, run.value = .error failure →
    (∃ request, (Journal.requests run.entries).getLast? = some request ∧
      script.failure? request = some failure) ∨
    (¬ begins ∧ Journal.requests run.entries = script.opening config ∧
      ∃ place fault, failure = .write place fault)

/-! ### The row of a run -/

/-- A request as a step. -/
def step (script : Script) (request : Request) : Step RunFailure Request :=
  ⟨[request], script.failure? request⟩

/-- The steps of a run. Beginning the report may fail, but asks for nothing. -/
def row (script : Script) (config : Config) (requested : Bool) (begin : Option RunFailure) :
    List (Step RunFailure Request) :=
  (script.opening config).map script.step ++
    ⟨[], begin⟩ :: (script.closing config requested).map script.step

/-- What a scripted answer leaves. -/
theorem outcome_answer {ε α : Type} (request : Request) (given : Except ε α)
    (setting : Setting) (files : FileSystem) :
    (answer request given).outcome setting files = ⟨given, files, [.request request]⟩ := by
  unfold answer
  simp [Attempt.outcome_bind, Attempt.outcome_mk]

/-- What the scripted linter leaves: its output at the end of the opened file. -/
theorem outcome_lint (script : Script) (sink : Location) (setting : Setting)
    (files : FileSystem) :
    (script.tools.lint sink).outcome setting files =
      ⟨script.lint, files.appendAll sink [script.lintOutput], [.request .lint]⟩ := by
  unfold tools
  simp [Attempt.outcome_bind, Attempt.outcome_mk]

/-- What a scripted answer leaves where the files are changed with it. -/
theorem outcome_answer_afterwards {ε α : Type} (request : Request) (given : Except ε α)
    (edit : FileSystem → FileSystem) (setting : Setting) (files : FileSystem) :
    ((answer request given).afterwards edit).outcome setting files =
      ⟨given, edit files, [.request request]⟩ := by
  rw [Attempt.outcome_afterwards, outcome_answer]

/-- What the scripted linter leaves where the files are changed after it. -/
theorem outcome_lint_editing (script : Script) (edit : Request → FileSystem → FileSystem)
    (sink : Location) (setting : Setting) (files : FileSystem) :
    ((script.tools.editing edit).lint sink).outcome setting files =
      ⟨script.lint, edit .lint (files.appendAll sink [script.lintOutput]), [.request .lint]⟩ := by
  show ((script.tools.lint sink).afterwards (edit .lint)).outcome setting files = _
  rw [Attempt.outcome_afterwards, outcome_lint]

private theorem follows_afterwards {ε α : Type} {attempt : Attempt ε α} {given : Except ε α}
    {request : Request} {after : FileSystem}
    (h : attempt.outcome setting files = ⟨given, after, [.request request]⟩)
    (edit : FileSystem → FileSystem) :
    Follows Entry.request? ((attempt.afterwards edit).outcome setting files)
      [⟨[request], failureOf given⟩] := by
  have hself := Follows.self Entry.request? ((attempt.afterwards edit).outcome setting files)
  rw [Attempt.outcome_afterwards, h] at hself ⊢
  exact hself

private theorem run_isRepository (path : RawPath) :
    ((script.tools.editing edit).isRepository path).run setting files =
      ⟨script.isRepository, edit (.isRepository path) files, [.request (.isRepository path)]⟩ := by
  simp [Tools.editing, tools]

private theorem follows_isRepository (path : RawPath) :
    Follows (ε := RunFailure) Entry.request? (Attempt.outcome
      (liftM ((script.tools.editing edit).isRepository path)) setting files)
      [script.step (.isRepository path)] := by
  rw [Attempt.outcome_lift, run_isRepository]
  exact ⟨rfl, rfl⟩

private theorem outcome_sync :
    (Run.sync config (script.tools.editing edit) script.isRepository).outcome setting files =
      ⟨if script.isRepository then script.pull else script.clone,
        edit (script.syncRequest config) files, [.request (script.syncRequest config)]⟩ := by
  unfold Run.sync syncRequest Tools.editing tools
  cases script.isRepository with
  | true => simp [Attempt.outcome_afterwards, outcome_answer]
  | false => simp [Attempt.outcome_afterwards, outcome_answer]

private theorem synced_files :
    (Run.synced config (script.tools.editing edit) setting files).files =
      edit (script.syncRequest config) (edit (.isRepository config.workingCopyPath) files) := by
  have hsynced := (Run.synced_eq config (script.tools.editing edit) setting files).2
  rw [hsynced, run_isRepository, outcome_sync]

private theorem follows_synced :
    Follows Entry.request? (Run.synced config (script.tools.editing edit) setting files)
      [script.step (.isRepository config.workingCopyPath),
        script.step (script.syncRequest config)] := by
  have hsync : Follows Entry.request?
      ((Run.sync config (script.tools.editing edit) script.isRepository).outcome setting
        (edit (.isRepository config.workingCopyPath) files))
      [⟨[script.syncRequest config],
        failureOf (if script.isRepository then script.pull else script.clone)⟩] := by
    rw [outcome_sync]
    exact .self _ _
  have hrow := Run.follows_acquire passesEvents_request? (follows_isRepository _)
    (by rw [run_isRepository]; exact hsync)
  have hstep : Step.mapFailure RunFailure.sync ⟨[script.syncRequest config],
      failureOf (if script.isRepository then script.pull else script.clone)⟩ =
        script.step (script.syncRequest config) := by
    unfold step syncRequest
    cases script.isRepository <;> rfl
  rw [List.map_singleton, hstep] at hrow
  exact hrow

private theorem outcome_headCommit (path : RawPath) :
    ((script.tools.editing edit).headCommit path).outcome setting files =
      ⟨script.head, edit (.headCommit path) files, [.request (.headCommit path)]⟩ := by
  exact outcome_answer_afterwards _ _ _ _ _

private theorem follows_recorded :
    Follows Entry.request? (Run.recorded config (script.tools.editing edit) setting files)
      [script.step (.headCommit config.workingCopyPath),
        ⟨[], (script.begun? config edit setting files).bind Outcome.failure?⟩] := by
  have hhead : Follows Entry.request?
      (((script.tools.editing edit).headCommit config.workingCopyPath).outcome setting
        (Run.synced config (script.tools.editing edit) setting files).files)
      [⟨[.headCommit config.workingCopyPath], failureOf script.head⟩] := by
    rw [outcome_headCommit]
    exact .self _ _
  refine Run.follows_recordCommit passesEvents_request? hhead ?_
  intro commit hcommit
  rw [outcome_headCommit] at hcommit ⊢
  rw [synced_files, begun?]
  dsimp only at hcommit
  rw [hcommit]
  rfl

private theorem follows_linted {commit : String}
    (h : (Run.recorded config (script.tools.editing edit) setting files).value = .ok commit) :
    Follows Entry.request? (Run.linted config (script.tools.editing edit) setting files)
      [script.step .lint] := by
  obtain ⟨place, node, -, -, hlinted⟩ := Run.linted_eq h
  rw [hlinted]
  exact (follows_afterwards (outcome_lint script place setting _) _).mapFailure RunFailure.lint

private theorem follows_concluded :
    Follows Entry.request?
      (Run.concluded config (script.tools.editing edit) requested setting files)
      (if requested then (.credentials :: script.pushRequests config).map script.step else []) := by
  have hcredentials : Follows Entry.request?
      ((script.tools.editing edit).credentials.outcome setting
        (Run.linted config (script.tools.editing edit) setting files).files)
      [⟨[.credentials], failureOf script.credentials⟩] :=
    follows_afterwards (outcome_answer _ _ _ _) _
  have hpush : ∀ vars, ((script.tools.editing edit).credentials.outcome setting
        (Run.linted config (script.tools.editing edit) setting files).files).value = .ok vars →
      Follows Entry.request? (((script.tools.editing edit).push config.workingCopyPath
        config.deploymentRemote vars).outcome setting
          ((script.tools.editing edit).credentials.outcome setting
            (Run.linted config (script.tools.editing edit) setting files).files).files)
        ((script.pushRequests config).map fun request => ⟨[request], failureOf script.push⟩) := by
    intro vars hvars
    have hgiven : script.credentials = .ok vars := by
      rw [← hvars]
      show _ = ((answer _ _).afterwards _ |>.outcome _ _).value
      rw [Attempt.outcome_afterwards, outcome_answer]
    rw [pushRequests, hgiven]
    exact follows_afterwards (outcome_answer _ _ _ _) _
  have hrow : Follows Entry.request?
      (Run.concluded config (script.tools.editing edit) requested setting files) _ :=
    Run.follows_conclude passesEvents_request? hcredentials hpush
  have hsteps : ((script.pushRequests config).map fun request =>
        (⟨[request], failureOf script.push⟩ : Step ToolFailure Request)).map
        (Step.mapFailure fun failure => .publish (.tool failure)) =
      (script.pushRequests config).map script.step := by
    unfold pushRequests
    cases script.credentials <;> rfl
  rw [hsteps] at hrow
  exact hrow

/-- The requests of a run are its row. -/
theorem follows_perform (script : Script) (config : Config)
    (edit : Request → FileSystem → FileSystem) (requested : Bool) (setting : Setting)
    (files : FileSystem) :
    Follows Entry.request?
      ((Run.perform config (script.tools.editing edit) requested).outcome setting files)
      (script.row config requested
        ((script.begun? config edit setting files).bind Outcome.failure?)) := by
  have hclosing : (script.closing config requested).map script.step = script.step .lint ::
      if requested then (.credentials :: script.pushRequests config).map script.step else [] := by
    rw [closing, List.map_cons]
    split <;> rfl
  rw [row, hclosing]
  exact Run.follows_perform passesEvents_request? follows_synced follows_recorded
    (fun _ hcommit => follows_linted hcommit) follows_concluded

/-! ### What a row says -/

private theorem begins_iff :
    script.Begins config edit setting files ↔
      script.failure? (.headCommit config.workingCopyPath) = none ∧
        (script.begun? config edit setting files).bind Outcome.failure? = none := by
  unfold Begins begun? failure?
  cases script.head with
  | error failure => simp [failureOf]
  | ok commit =>
    simp only [Option.some.injEq, exists_eq_left', Option.bind_some, Outcome.failure?,
      failureOf_eq_none_iff]
    constructor
    · intro h
      exact ⟨rfl, (), h⟩
    · rintro ⟨-, _, h⟩
      exact h

private theorem write_of_begun? {failure : RunFailure}
    (h : (script.begun? config edit setting files).bind Outcome.failure? = some failure) :
    ∃ place fault, failure = .write place fault := by
  unfold begun? at h
  split at h
  · exact Report.write_of_begin_error (failureOf_eq_some_iff.mp h)
  · cases h

private theorem not_mem_opening :
    .lint ∉ script.opening config ∧ .credentials ∉ script.opening config ∧
      ∀ path remote vars, .push path remote vars ∉ script.opening config := by
  unfold opening syncRequest
  cases script.isRepository <;> simp

private theorem flatMap_step (requests : List Request) :
    (requests.map script.step).flatMap Step.shows = requests := by
  induction requests with
  | nil => rfl
  | cons request rest ih => simpa [step] using ih

private theorem flatMap_row (begin : Option RunFailure) :
    (script.row config requested begin).flatMap Step.shows = script.path config requested := by
  rw [row, List.flatMap_append, flatMap_step, List.flatMap_cons, flatMap_step]
  rfl

private theorem mem_row {begin : Option RunFailure} {step : Step RunFailure Request}
    (h : step ∈ script.row config requested begin) :
    step = ⟨[], begin⟩ ∨ ∃ request ∈ script.path config requested, step = script.step request := by
  rw [row, List.mem_append, List.mem_cons] at h
  rcases h with h | rfl | h
  · obtain ⟨request, hmem, rfl⟩ := List.mem_map.mp h
    exact .inr ⟨request, List.mem_append_left _ hmem, rfl⟩
  · exact .inl rfl
  · obtain ⟨request, hmem, rfl⟩ := List.mem_map.mp h
    exact .inr ⟨request, List.mem_append_right _ hmem, rfl⟩

private theorem nodup_path : (script.path config requested).Nodup := by
  unfold path opening closing syncRequest pushRequests
  cases script.isRepository <;> cases requested <;> cases script.credentials <;> simp

private theorem settles_row (begin : Option RunFailure) :
    ∀ step ∈ script.row config requested begin,
      step.Settles fun request => script.failure? request = none := by
  intro step hmem
  rcases mem_row hmem with rfl | ⟨request, -, rfl⟩
  · exact ⟨Nat.zero_le 1, by simp⟩
  · refine ⟨Nat.le_refl 1, fun h other hother => ?_⟩
    rw [List.mem_singleton.mp hother]
    exact h

private theorem getLast?_of_failure {requests : List Request} {failure : RunFailure}
    (h : Steps.failure? (requests.map script.step) = some failure) :
    ∃ request, (Steps.shown (requests.map script.step)).getLast? = some request ∧
      script.failure? request = some failure := by
  obtain ⟨before, last, after, hsteps, -, hlast, hshown⟩ := Steps.eq_of_failure?_eq_some h
  have hmem : last ∈ requests.map script.step := by
    rw [hsteps]
    simp
  obtain ⟨request, -, rfl⟩ := List.mem_map.mp hmem
  refine ⟨request, ?_, hlast⟩
  rw [hshown]
  simp [step]

private theorem failure?_opening :
    Steps.failure? ((script.opening config).map script.step) = none ↔
      script.failure? (script.syncRequest config) = none ∧
        script.failure? (.headCommit config.workingCopyPath) = none := by
  rw [Steps.failure?_eq_none_iff]
  simp [opening, step, failure?]

private theorem lint_mem_shown_row (begin : Option RunFailure) :
    .lint ∈ Steps.shown (script.row config requested begin) ↔
      script.failure? (script.syncRequest config) = none ∧
        script.failure? (.headCommit config.workingCopyPath) = none ∧ begin = none := by
  have hrow : script.row config requested begin =
      ((script.opening config).map script.step ++ [⟨[], begin⟩]) ++ script.step .lint ::
        (script.closing config requested).tail.map script.step := by
    rw [row, List.append_assoc]
    rfl
  rw [hrow, Steps.mem_shown_iff ?_ (List.mem_singleton_self _), Steps.failure?_append,
    Option.or_eq_none_iff, failure?_opening, and_assoc]
  · cases begin <;> rfl
  · rw [List.flatMap_append, flatMap_step]
    simp [not_mem_opening.1]

private theorem push_mem_shown_row {vars : Variables} (hvars : script.credentials = .ok vars)
    (begin : Option RunFailure) :
    .push config.workingCopyPath config.deploymentRemote vars ∈
        Steps.shown (script.row config true begin) ↔
      script.failure? (script.syncRequest config) = none ∧
        script.failure? (.headCommit config.workingCopyPath) = none ∧ begin = none ∧
          script.failure? .lint = none := by
  have hrow : script.row config true begin =
      ((script.opening config).map script.step ++
          [⟨[], begin⟩, script.step .lint, script.step .credentials]) ++
        script.step (.push config.workingCopyPath config.deploymentRemote vars) :: [] := by
    rw [row, closing, pushRequests, hvars, List.append_assoc]
    rfl
  have hcredentials : script.failure? .credentials = none := by
    rw [failure?, hvars]
    rfl
  rw [hrow, Steps.mem_shown_iff ?_ (List.mem_singleton_self _), Steps.failure?_append,
    Option.or_eq_none_iff, failure?_opening, and_assoc, Steps.failure?_eq_none_iff]
  · simp [step, hcredentials]
  · rw [List.flatMap_append, flatMap_step]
    simp [step, not_mem_opening.2.2]

private theorem push_mem_path {path : RawPath} {remote : String} {vars : Variables}
    (h : .push path remote vars ∈ script.path config requested) :
    requested = true ∧ path = config.workingCopyPath ∧ remote = config.deploymentRemote ∧
      script.credentials = .ok vars := by
  rw [Script.path, closing, List.mem_append] at h
  have hlast := h.resolve_left (not_mem_opening.2.2 path remote vars)
  cases requested with
  | false => simp at hlast
  | true =>
    unfold pushRequests at hlast
    cases hc : script.credentials with
    | error failure => simp [hc] at hlast
    | ok given =>
      obtain ⟨rfl, rfl, rfl⟩ :
          path = config.workingCopyPath ∧ remote = config.deploymentRemote ∧ vars = given := by
        simpa [hc] using hlast
      exact ⟨rfl, rfl, rfl, rfl⟩

private theorem push_mem_shown_row_iff {path : RawPath} {remote : String} {vars : Variables}
    {begin : Option RunFailure} :
    .push path remote vars ∈ Steps.shown (script.row config requested begin) ↔
      requested = true ∧ path = config.workingCopyPath ∧ remote = config.deploymentRemote ∧
        script.failure? (script.syncRequest config) = none ∧
        script.failure? (.headCommit config.workingCopyPath) = none ∧ begin = none ∧
        script.failure? .lint = none ∧ script.credentials = .ok vars := by
  constructor
  · intro hmem
    have hpath : .push path remote vars ∈ script.path config requested := by
      rw [← flatMap_row begin]
      exact (Steps.beginning_shown _).subset hmem
    obtain ⟨rfl, rfl, rfl, hvars⟩ := push_mem_path hpath
    obtain ⟨hsync, hhead, hb, hlint⟩ := (push_mem_shown_row hvars begin).mp hmem
    exact ⟨rfl, rfl, rfl, hsync, hhead, hb, hlint, hvars⟩
  · rintro ⟨rfl, rfl, rfl, hsync, hhead, hb, hlint, hvars⟩
    exact (push_mem_shown_row hvars begin).mpr ⟨hsync, hhead, hb, hlint⟩

private theorem failure?_row_eq_none_iff {begin : Option RunFailure} :
    Steps.failure? (script.row config requested begin) = none ↔
      Steps.shown (script.row config requested begin) = script.path config requested ∧
        ∀ request ∈ script.path config requested, script.failure? request = none := by
  constructor
  · intro hnone
    obtain ⟨hall, -⟩ := Steps.eq_of_failure?_eq_none hnone
    have hpath : Steps.shown (script.row config requested begin) = script.path config requested :=
      hall.trans (flatMap_row begin)
    refine ⟨hpath, ?_⟩
    rw [← hpath]
    exact Steps.good_of_failure?_eq_none (settles_row begin) hnone
  · rintro ⟨hpath, hgood⟩
    have hlint : Request.lint ∈ Steps.shown (script.row config requested begin) := by
      rw [hpath]
      simp [Script.path, closing]
    obtain ⟨-, -, rfl⟩ := (lint_mem_shown_row begin).mp hlint
    rw [Steps.failure?_eq_none_iff]
    intro step hmem
    rcases mem_row hmem with rfl | ⟨request, hrequest, rfl⟩
    · rfl
    · exact hgood request hrequest

private theorem failure_of_row {begin : Option RunFailure} {failure : RunFailure}
    (h : Steps.failure? (script.row config requested begin) = some failure) :
    (∃ request, (Steps.shown (script.row config requested begin)).getLast? = some request ∧
      script.failure? request = some failure) ∨
    (begin = some failure ∧
      Steps.shown (script.row config requested begin) = script.opening config) := by
  rw [row, Steps.failure?_append] at h
  rw [row, Steps.shown_append]
  cases hopening : Steps.failure? ((script.opening config).map script.step) with
  | some first =>
    rw [hopening] at h
    cases h
    exact .inl (getLast?_of_failure hopening)
  | none =>
    rw [hopening, Option.none_or] at h
    have hall := (Steps.eq_of_failure?_eq_none hopening).1
    rw [flatMap_step] at hall
    cases begin with
    | some reason =>
      cases h
      exact .inr ⟨rfl, by simp [hall]⟩
    | none =>
      obtain ⟨request, hlast, hbad⟩ := getLast?_of_failure h
      refine .inl ⟨request, ?_, hbad⟩
      rw [Steps.shown_cons_none, List.nil_append, List.getLast?_append, hlast]
      rfl

/-- What the answers of a script decide, whatever happens to the files with each request: the
requests come in one order, each once and none after a failure; linting takes a report, publishing
takes the order to do so and success so far; the result is that of the answers. -/
theorem decides_perform (config : Config) (script : Script)
    (edit : Request → FileSystem → FileSystem) (requested : Bool) (setting : Setting)
    (files : FileSystem) :
    script.Decides config requested (script.Begins config edit setting files)
      ((Run.perform config (script.tools.editing edit) requested).outcome setting files) := by
  have hfollows := follows_perform script config edit requested setting files
  generalize hbegin : (script.begun? config edit setting files).bind Outcome.failure? = begin
    at hfollows
  have hbegins : script.Begins config edit setting files ↔
      script.failure? (.headCommit config.workingCopyPath) = none ∧ begin = none := by
    rw [begins_iff, hbegin]
  have hshown : Journal.requests
      ((Run.perform config (script.tools.editing edit) requested).outcome setting files).entries =
        Steps.shown (script.row config requested begin) := hfollows.shown
  have hfailure : failureOf
      ((Run.perform config (script.tools.editing edit) requested).outcome setting files).value =
        Steps.failure? (script.row config requested begin) := hfollows.failure
  have horder : Steps.shown (script.row config requested begin) <+:
      script.path config requested := by
    rw [← flatMap_row begin]
    exact Steps.beginning_shown _
  constructor
  case order =>
    rw [hshown]
    exact horder
  case once =>
    rw [hshown]
    exact nodup_path.sublist horder.sublist
  case earlier =>
    rw [hshown]
    exact Steps.pairwise_shown (settles_row begin)
  case lint =>
    intro hmem
    rw [hshown, lint_mem_shown_row] at hmem
    exact hbegins.mpr hmem.2
  case push_iff =>
    intro path remote vars
    rw [hshown, hbegins, push_mem_shown_row_iff]
    tauto
  case unrequested =>
    rintro rfl
    have hpath : Request.credentials ∉ script.path config false ∧
        ∀ path remote vars, Request.push path remote vars ∉ script.path config false := by
      simp [Script.path, closing, not_mem_opening.2]
    rw [hshown]
    exact ⟨fun hmem => hpath.1 (horder.subset hmem),
      fun path remote vars hmem => hpath.2 path remote vars (horder.subset hmem)⟩
  case ok_iff =>
    rw [← failureOf_eq_none_iff, hfailure, hshown]
    exact failure?_row_eq_none_iff
  case failure =>
    intro failure hvalue
    rw [hvalue] at hfailure
    rw [hshown]
    rcases failure_of_row hfailure.symm with hlast | ⟨hfailed, hopening⟩
    · exact .inl hlast
    · refine .inr ⟨?_, hopening, write_of_begun? (hbegin.trans hfailed)⟩
      rw [hbegins, hfailed]
      simp

end Script

end LocaleRelay
