import LocaleRelay.Proofs.Pipeline.Alike

/-!
# Tools that note what they are asked

Scripted tools note every question to them in the journal. Any other tools do so if each question is
noted before it is put to them. Such tools, in two settings, are alike if they answer the same
questions alike: scripted ones with the same answers, and those that run processes wherever these
find the same variables and the key has the same path.
-/

namespace LocaleRelay

open Files

variable {tools other : Tools} {setting otherSetting : Setting}

/-- A question was put to a tool, and only that one, and nothing was listed. -/
structure Outcome.Asks {α : Type} (request : Request) (outcome : Outcome α) : Prop where
  requests : Journal.requests outcome.entries = [request]
  unlisted : ∀ entry ∈ outcome.entries, ¬ entry.IsListing

/-- Tools that note each question to them once. -/
structure Tools.Candid (tools : Tools) : Prop where
  isRepository : ∀ path setting files,
    ((tools.isRepository path).run setting files).Asks (.isRepository path)
  clone : ∀ remote path setting files,
    ((tools.clone remote path).outcome setting files).Asks (.clone remote path)
  pull : ∀ path remote setting files,
    ((tools.pull path remote).outcome setting files).Asks (.pull path remote)
  headCommit : ∀ path setting files,
    ((tools.headCommit path).outcome setting files).Asks (.headCommit path)
  lint : ∀ sink setting files, ((tools.lint sink).outcome setting files).Asks .lint
  credentials : ∀ setting files, (tools.credentials.outcome setting files).Asks .credentials
  push : ∀ path remote vars setting files,
    ((tools.push path remote vars).outcome setting files).Asks (.push path remote vars)

/-- Tools that answer alike, the first ones in one setting and the second ones in another. -/
structure Tools.Alike (setting otherSetting : Setting) (tools other : Tools) : Prop where
  isRepository : ∀ path,
    (tools.isRepository path).Alike setting otherSetting (other.isRepository path)
  clone : ∀ remote path,
    Attempt.Alike setting otherSetting (tools.clone remote path) (other.clone remote path)
  pull : ∀ path remote,
    Attempt.Alike setting otherSetting (tools.pull path remote) (other.pull path remote)
  headCommit : ∀ path,
    Attempt.Alike setting otherSetting (tools.headCommit path) (other.headCommit path)
  lint : ∀ sink, Attempt.Alike setting otherSetting (tools.lint sink) (other.lint sink)
  credentials : Attempt.Alike setting otherSetting tools.credentials other.credentials
  push : ∀ path remote vars,
    Attempt.Alike setting otherSetting (tools.push path remote vars) (other.push path remote vars)

/-! ### Noted questions -/

/-- An attempt after a note of the question to which it is the answer. -/
def Attempt.noting {ε α : Type} (request : Request) (attempt : Attempt ε α) : Attempt ε α := do
  Act.record (.request request)
  attempt

/-- Tools with a note of each question before it is put to them. -/
def Tools.noting (tools : Tools) : Tools where
  isRepository path := do
    Act.record (.request (.isRepository path))
    tools.isRepository path
  clone remote path := (tools.clone remote path).noting (.clone remote path)
  pull path remote := (tools.pull path remote).noting (.pull path remote)
  headCommit path := (tools.headCommit path).noting (.headCommit path)
  lint sink := (tools.lint sink).noting .lint
  credentials := tools.credentials.noting .credentials
  push path remote vars := (tools.push path remote vars).noting (.push path remote vars)

/-- A note and what an attempt leaves. -/
theorem Attempt.outcome_noting {ε α : Type} (request : Request) (attempt : Attempt ε α)
    (setting : Setting) (files : FileSystem) :
    (attempt.noting request).outcome setting files =
      { attempt.outcome setting files with
        entries := .request request :: (attempt.outcome setting files).entries } := by
  rw [noting, outcome_bind_ok (a := ()) rfl]
  rfl

/-- An entry that is neither a question nor of a listing. -/
def Entry.IsAside (entry : Entry) : Prop := entry.request? = none ∧ ¬ entry.IsListing

private theorem Outcome.asks_cons {α : Type} {value : α} {files : FileSystem} {request : Request}
    {entries : List Entry} (h : ∀ entry ∈ entries, entry.IsAside) :
    (Outcome.mk value files (.request request :: entries)).Asks request := by
  have hnone : Journal.requests entries = [] :=
    List.filterMap_eq_nil_iff.mpr fun entry hmem => (h entry hmem).1
  constructor
  · rw [← List.singleton_append, Journal.requests_append, hnone]
    rfl
  · intro entry hmem
    rcases List.mem_cons.mp hmem with rfl | hmem
    · rintro ⟨event, hevent, -⟩
      cases hevent
    · exact (h entry hmem).2

/-- Tools that put no questions themselves and list nothing are candid with a note of each question
to them. -/
theorem Tools.candid_noting (h : tools.Adds Entry.IsAside) : tools.noting.Candid := by
  have hnoting : ∀ {ε α : Type} {attempt : Attempt ε α} (request : Request),
      attempt.Adds Entry.IsAside →
        ∀ setting files, ((attempt.noting request).outcome setting files).Asks request := by
    intro ε α attempt request hadds setting files
    rw [Attempt.outcome_noting]
    exact Outcome.asks_cons (hadds setting files)
  constructor
  case isRepository =>
    exact fun path setting files => Outcome.asks_cons (h.isRepository path setting files)
  case clone => exact fun remote path => hnoting _ (h.clone remote path)
  case pull => exact fun path remote => hnoting _ (h.pull path remote)
  case headCommit => exact fun path => hnoting _ (h.headCommit path)
  case lint => exact fun sink => hnoting _ (h.lint sink)
  case credentials => exact hnoting _ h.credentials
  case push => exact fun path remote vars => hnoting _ (h.push path remote vars)

/-- Tools that answer alike do so with a note of each question. -/
theorem Tools.Alike.noting (h : tools.Alike setting otherSetting other) :
    tools.noting.Alike setting otherSetting other.noting := by
  have hnoting : ∀ {ε α : Type} {attempt otherAttempt : Attempt ε α} (request : Request),
      Attempt.Alike setting otherSetting attempt otherAttempt →
        Attempt.Alike setting otherSetting (attempt.noting request)
          (otherAttempt.noting request) :=
    fun request halike => .bind_lift (fun _ => .refl _) fun _ => halike
  constructor
  case isRepository =>
    intro path files
    have hpath := h.isRepository path files
    exact ⟨congrArg (Request.isRepository path :: ·) hpath.requests, hpath.value, hpath.files,
      hpath.events⟩
  case clone => exact fun remote path => hnoting _ (h.clone remote path)
  case pull => exact fun path remote => hnoting _ (h.pull path remote)
  case headCommit => exact fun path => hnoting _ (h.headCommit path)
  case lint => exact fun sink => hnoting _ (h.lint sink)
  case credentials => exact hnoting _ h.credentials
  case push => exact fun path remote vars => hnoting _ (h.push path remote vars)

/-! ### Scripted tools -/

namespace Script

variable (script : Script) (edit : Request → FileSystem → FileSystem)

/-- Scripted tools note each question, whatever happens to the files with it. -/
theorem candid_tools : (script.tools.editing edit).Candid := by
  have hanswer : ∀ {ε α : Type} (request : Request) (given : Except ε α)
      (edit : FileSystem → FileSystem) (setting : Setting) (files : FileSystem),
      (((answer request given).afterwards edit).outcome setting files).Asks request := by
    intro ε α request given edit setting files
    rw [outcome_answer_afterwards]
    exact Outcome.asks_cons (by simp)
  constructor
  case isRepository => exact fun path setting files => Outcome.asks_cons (by simp)
  case clone => exact fun remote path => hanswer _ _ _
  case pull => exact fun path remote => hanswer _ _ _
  case headCommit => exact fun path => hanswer _ _ _
  case lint =>
    intro sink setting files
    rw [outcome_lint_editing]
    exact Outcome.asks_cons (by simp)
  case credentials => exact hanswer _ _ _
  case push => exact fun path remote vars => hanswer _ _ _

/-- Scripted tools answer alike in any two settings. -/
theorem alike_tools (setting otherSetting : Setting) :
    (script.tools.editing edit).Alike setting otherSetting (script.tools.editing edit) := by
  have hanswer : ∀ {ε α : Type} (request : Request) (given : Except ε α)
      (edit : FileSystem → FileSystem), Attempt.Alike setting otherSetting
        ((answer request given).afterwards edit) ((answer request given).afterwards edit) := by
    intro ε α request given edit
    exact .of_ignoresSetting fun _ _ _ => by
      rw [outcome_answer_afterwards, outcome_answer_afterwards]
  constructor
  case isRepository => exact fun path files => .refl _
  case clone => exact fun remote path => hanswer _ _ _
  case pull => exact fun path remote => hanswer _ _ _
  case headCommit => exact fun path => hanswer _ _ _
  case lint => exact fun sink files => .refl _
  case credentials => exact hanswer _ _ _
  case push => exact fun path remote vars => hanswer _ _ _

end Script

/-! ### Tools that run processes -/

/-- Tools that run processes are candid with a note of each question. -/
theorem Config.candid_noting (config : Config) (host : Host) :
    (config.tools host).noting.Candid := by
  refine Tools.candid_noting ((config.adds_tools host).mono fun entry hentry => ?_)
  cases hentry with
  | launch launch =>
    refine ⟨rfl, ?_⟩
    rintro ⟨event, hevent, -⟩
    cases hevent
  | terminal stream bytes =>
    refine ⟨rfl, ?_⟩
    rintro ⟨event, hevent, -⟩
    cases hevent
  | remark event hremark =>
    refine ⟨rfl, ?_⟩
    rintro ⟨other, hother, hlisting⟩
    cases hother
    exact hremark.1 hlisting

section Processes

variable {host : Host}

/-- Of its setting, a process sees the environment. -/
theorem alike_execute (h : setting.environment = otherSetting.environment) (command : Command)
    (destination : Destination) : Attempt.Alike setting otherSetting
      (execute host command destination) (execute host command destination) := by
  intro files
  have hsame : (execute host command destination).outcome setting files =
      (execute host command destination).outcome otherSetting files := by
    cases hl : command.launch otherSetting.environment files with
    | error fault => simp [execute, Attempt.outcome_bind, h, hl]
    | ok launch =>
      have hdeliver : (deliver (host launch).chunks destination).run setting files =
          (deliver (host launch).chunks destination).run otherSetting files := by
        cases destination <;> rfl
      simp [execute, Attempt.outcome_bind, h, hl, hdeliver, -bind_pure_comp]
  rw [hsame]
  exact .refl _

private theorem Repository.alike_run (h : setting.environment = otherSetting.environment)
    (number : Nat) (args : List (List UInt8)) (vars : Variables) :
    Attempt.Alike setting otherSetting (run host number args vars) (run host number args vars) := by
  refine .bind_log (.bind ((alike_execute h _ _).mapFailure _) fun finished => ?_)
  refine .of_ignoresSetting ?_
  split
  · exact .pure _
  · exact .bind_lift (fun _ _ _ => rfl) fun _ => .throw _

/-- Tools that run processes answer alike in settings with the same environment, if the key has the
same path in both. -/
theorem Config.alike_tools {config : Config}
    (he : setting.environment = otherSetting.environment)
    (hk : Credentials.keyPath setting.home config.sshKeyPath =
      Credentials.keyPath otherSetting.home config.sshKeyPath) :
    (config.tools host).Alike setting otherSetting (config.tools host) := by
  have hlog : ∀ (level : Level) (source : Source) (message : String) (fields : List Field),
      Attempt.Alike (ε := ToolFailure) setting otherSetting
        (liftM (Act.log level source message fields))
        (liftM (Act.log level source message fields)) :=
    fun _ _ _ _ => .lift fun _ => .refl _
  have hparent : ∀ path, (Repository.makeParent path).IgnoresSetting := by
    intro path
    rw [Repository.makeParent]
    split
    · refine .bind_lift (fun _ _ _ => rfl) fun files => ?_
      split
      · exact .bind (.makeAll _ _) fun _ => .lift fun _ _ _ => rfl
      · exact .pure _
    · exact .pure _
  constructor
  case isRepository => exact fun path files => .refl _
  case clone =>
    exact fun remote path => .bind (.of_ignoresSetting (hparent path)) fun _ =>
      .bind (Repository.alike_run he _ _ _) fun _ => hlog _ _ _ _
  case pull =>
    exact fun path remote => .bind (Repository.alike_run he _ _ _) fun _ => hlog _ _ _ _
  case headCommit =>
    intro path
    refine .bind ((alike_execute he _ _).mapFailure _) fun finished => .of_ignoresSetting ?_
    split
    · dsimp only
      split
      · exact .throw _
      · exact .pure _
    · exact .throw _
  case lint =>
    intro sink
    refine .bind_log (.bind ((alike_execute he _ _).mapFailure _) fun finished => ?_)
    refine .of_ignoresSetting ?_
    split
    · exact .lift fun _ _ _ => rfl
    · exact .bind_lift (fun _ _ _ => rfl) fun _ => .throw _
  case credentials =>
    intro files
    have hsame : (Credentials.ofKey config.sshKeyPath).outcome setting files =
        (Credentials.ofKey config.sshKeyPath).outcome otherSetting files := by
      by_cases hfile : files.isFile
          (Credentials.keyPath otherSetting.home config.sshKeyPath)
      · simp [Credentials.ofKey, Attempt.outcome_bind, hk, hfile, -bind_pure_comp]
      · simp [Credentials.ofKey, Attempt.outcome_bind, hk, hfile, -bind_pure_comp]
    show Outcome.Alike ((Credentials.ofKey config.sshKeyPath).outcome setting files) _
    rw [hsame]
    exact .refl _
  case push =>
    exact fun path remote vars => .bind (Repository.alike_run he _ _ _) fun _ => hlog _ _ _ _

end Processes

end LocaleRelay
