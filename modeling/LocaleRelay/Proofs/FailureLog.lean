import LocaleRelay.Proofs.Causes
import LocaleRelay.Proofs.Pipeline.StageEvents

/-!
# How a log ends after a failure

The last event of a run that fails tells the failure by its message, and so do the last ones of its
session and of the program. Since that message ends with the message of the root, whoever reads the
end of a log reads what went wrong in the first place.
-/

namespace LocaleRelay

open Files

/-! ### The end of a log -/

/-- An attempt at the end of whose journal stand the events that tell its failure. -/
def Attempt.EndsTelling {ε α : Type} (told : ε → List Event) (attempt : Attempt ε α) : Prop :=
  ∀ setting files failure, (attempt.outcome setting files).value = .error failure →
    (told failure).map Entry.event <:+ (attempt.outcome setting files).entries

namespace Attempt.EndsTelling

variable {ε α β : Type} {told : ε → List Event}

private theorem lift (act : Act α) : EndsTelling told (liftM act) := by
  intro setting files failure h
  rw [outcome_lift] at h
  cases h

private theorem bind {first : Attempt ε α} {next : α → Attempt ε β} (hf : EndsTelling told first)
    (hn : ∀ a, EndsTelling told (next a)) : EndsTelling told (first >>= next) := by
  intro setting files failure h
  rcases value_bind_eq_error h with h | ⟨a, ha, h⟩
  · rw [outcome_bind_error h]
    exact hf setting files failure h
  · rw [outcome_bind_ok ha]
    exact (hn a setting _ failure h).trans (List.suffix_append _ _)

end Attempt.EndsTelling

/-- The events that tell a failed run at its end. -/
def Run.lastEvents (requested : Bool) (failure : RunFailure) : List Event :=
  [(failureEvent failure).inSpan ⟨requested⟩]

/-- The events that tell at the end of a session that its run failed: those of the run, and one of
the session. -/
def Session.lastEvents (requested : Bool) : SessionFailure → List Event
  | .config _ => []
  | .run failure =>
    Run.lastEvents requested failure ++
      [{ level := .error, source := .session, message := "Run failed",
         fields := [⟨"command", .quoted "sync"⟩, ⟨"error", .bare failure.message⟩], span := none }]

/-- The last entry of a run that fails tells it. -/
theorem Run.endsTelling_perform (config : Config) (tools : Tools) (requested : Bool) :
    (perform config tools requested).EndsTelling (lastEvents requested) := by
  intro setting files failure h
  rw [(outcome_perform config tools requested setting files).1] at h
  rw [entries_perform, h, ← List.cons_append, List.map_append]
  exact List.suffix_append _ _

/-- The last entries of a session whose run fails tell it. -/
theorem Session.endsTelling_perform (host : Host) (path : Option String) (push : Bool) :
    (perform host path push).EndsTelling (lastEvents push) := by
  have hload : ((Config.loadOrBuiltIn path).mapFailure SessionFailure.config).EndsTelling
      (lastEvents push) := by
    intro setting files failure h
    rw [Attempt.outcome_mapFailure] at h
    obtain ⟨reason, -, rfl⟩ := mapError_eq_error h
    exact List.nil_suffix
  refine .bind (.lift _) fun _ => .bind hload fun config => .bind (.lift _) fun _ => ?_
  intro setting files failure h
  have hrun := Run.endsTelling_perform config (config.tools host) push setting files
  simp only [Attempt.outcome_bind, Attempt.outcome_lift, Attempt.run_run] at h ⊢
  cases hv : ((Run.perform config (config.tools host) push).outcome setting files).value with
  | ok report =>
    rw [hv] at h
    cases h
  | error reason =>
    rw [hv] at h
    cases h
    obtain ⟨before, hbefore⟩ := hrun reason hv
    rw [← hbefore, List.append_assoc]
    exact List.suffix_append before _

/-- The events that tell at the end of a log why a session failed: those of the session, and one
with the messages of all causes. -/
def Program.lastEvents (requested : Bool) (failure : SessionFailure) : List Event :=
  Session.lastEvents requested failure ++
    [{ level := .error, source := .program, message := "CLI exited with error",
       fields := [⟨"error", .bare failure.joined⟩], span := none }]

/-- A program whose log ends, where its session fails, with the events that tell why. -/
def Program.EndsTelling (host : Host) (arguments : List String) : Prop :=
  ∀ setting files options failure, Arguments.read arguments = .ok options →
    ((Session.perform host options.config options.push).outcome setting files).value =
      .error failure →
    (lastEvents options.push failure).map Entry.event <:+
      ((perform host arguments).run setting files).entries

/-- The last entries of the program tell why its session failed. -/
theorem Program.endsTelling_perform (host : Host) (arguments : List String) :
    EndsTelling host arguments := by
  intro setting files options failure hread h
  obtain ⟨before, hbefore⟩ :=
    Session.endsTelling_perform host options.config options.push setting files failure h
  unfold perform
  rw [hread]
  simp only [Act.run_bind, Act.run_log, Attempt.run_run]
  rw [h, ← hbefore, List.append_assoc, ← List.append_assoc, lastEvents, List.map_append]
  exact List.suffix_append _ _

/-! ### What a failed run tells -/

namespace RunFailure

/-- How a failed run tells what caused it. Its causes are the messages along the chain, each ending
the one above it, and the last one is the root. The log of a run and of its session tells the
message, that of the program all messages. The root is a fault exactly if the report could not be
written or a tool not be started, and no other cause is one. -/
structure TellsRoot (failure : RunFailure) : Prop where
  along : failure.causes = (Mishap.run failure).chain.map Mishap.message
  nested : (failure.message :: failure.causes).IsChain Text.EndsWith
  root : ∃ root, failure.causes.getLast? = some root ∧ Text.EndsWith failure.message root ∧
    Text.EndsWith failure.joined root
  told : ∀ requested,
    (Program.lastEvents requested (.run failure)).map (Event.field? "error") =
      [some (.bare failure.message), some (.bare failure.message), some (.bare failure.joined)]
  fault_iff : ∀ reason, (Mishap.run failure).chain.getLast? = some (.fault reason) ↔
    (∃ path, failure = .write path reason) ∨
      ∃ program, failure.tool? = some (.launch program reason)
  fault_last : ∀ reason, .fault reason ∈ (Mishap.run failure).chain →
    (Mishap.run failure).chain.getLast? = some (.fault reason)
  fault_told : ∀ reason, (Mishap.run failure).chain.getLast? = some (.fault reason) →
    failure.causes.getLast? = some reason.message

private theorem tellsRoot (failure : RunFailure) : failure.TellsRoot := by
  have halong : failure.causes = (Mishap.run failure).chain.map Mishap.message :=
    (Mishap.run failure).map_message_chain.symm
  constructor
  case along => exact halong
  case nested =>
    rw [halong]
    exact (Mishap.run failure).isChain_message_chain
  case root =>
    have hne := failure.chain_ne_nil
    have htold := getLast?_causes (List.getLast?_eq_some_getLast hne)
    refine ⟨_, htold, Mishap.endsWith_of_mem_chain (List.getLast_mem hne), ?_⟩
    apply Text.EndsWith.intercalate
    rw [List.getLast?_cons, htold]
    rfl
  case told => exact fun requested => rfl
  case fault_iff =>
    intro reason
    rw [← Mishap.fault_mem_chain_run]
    exact ⟨List.mem_of_getLast?, Mishap.getLast?_chain_of_fault_mem⟩
  case fault_last => exact fun reason => Mishap.getLast?_chain_of_fault_mem
  case fault_told => exact fun reason => getLast?_causes

end RunFailure

/-- The failure of a tool tells the same causes wherever it ends a run: while publishing and while
linting they are those of bringing the working copy up to date. -/
structure ToolFailure.ToldAlike (failure : ToolFailure) : Prop where
  chain_publish : (Mishap.publish (.tool failure)).chain = (Mishap.tool failure).chain
  publish : (RunFailure.publish (.tool failure)).causes = (RunFailure.sync failure).causes
  lint : (RunFailure.lint failure).causes = (RunFailure.sync failure).causes

/-- Every failed run tells what caused it, down to the root, by its message alone, and the logs of
the run and of its session end with this message. -/
theorem RunFailure.message_tells_root :
    (∀ failure : RunFailure, failure.TellsRoot) ∧
      (∀ failure : ToolFailure, failure.ToldAlike) ∧
      (∀ (config : Config) (tools : Tools) (requested : Bool),
        (Run.perform config tools requested).EndsTelling (Run.lastEvents requested)) ∧
      (∀ (host : Host) (path : Option String) (push : Bool),
        (Session.perform host path push).EndsTelling (Session.lastEvents push)) ∧
      ∀ (host : Host) (arguments : List String), Program.EndsTelling host arguments :=
  ⟨tellsRoot, fun failure => ⟨Mishap.chain_publish_tool failure, rfl, rfl⟩, Run.endsTelling_perform,
    Session.endsTelling_perform, Program.endsTelling_perform⟩

/-- A run whose lint command takes away the program that is to publish. The fault is behind the
failure to publish, and the log ends with it. -/
theorem RunFailure.message_tells_root_git_gone :
    let host : Host := fun launch =>
      ⟨if launch.number = 1 then [⟨.output, "4f1c\n".toUTF8⟩] else [],
        fun files => if launch.number = 2 then files.set [utf8 "bin"] (.directory []) else files,
        .exited 0⟩
    let setting : Setting := ⟨some (utf8 "/home"), .empty, fun _ => 4096⟩
    let files : FileSystem := ⟨.directory [
      (utf8 "bin", .directory [(utf8 "git", .file ByteArray.empty true),
        (utf8 "make", .file ByteArray.empty true)]),
      (utf8 "home", .directory [(utf8 ".ssh", .directory [
        (utf8 "id_rsa-sumo-l10n-prod", .file ByteArray.empty false)])])], []⟩
    let failure : RunFailure := .publish (.tool (.launch "git" .notFound))
    Arguments.read ["--push"] = .ok ⟨true, none, false⟩ ∧
      ((Session.perform host none true).outcome setting files).value = .error (.run failure) ∧
      (Program.lastEvents true (.run failure)).map Entry.event <:+
        ((Program.perform host ["--push"]).run setting files).entries ∧
      (Mishap.run failure).chain.getLast? = some (.fault .notFound) ∧
      Text.EndsWith failure.message "No such file or directory (os error 2)" := by
  intro host setting files failure
  have hread : Arguments.read ["--push"] = .ok ⟨true, none, false⟩ := by decide +kernel
  have hvalue : ((Session.perform host none true).outcome setting files).value =
      .error (.run failure) := by decide +kernel
  obtain ⟨htells, -, -, -, hprogram⟩ := RunFailure.message_tells_root
  have hfault := ((htells failure).fault_iff .notFound).mpr (.inr ⟨"git", rfl⟩)
  obtain ⟨root, hroot, hends, -⟩ := (htells failure).root
  rw [(htells failure).fault_told _ hfault] at hroot
  cases hroot
  exact ⟨hread, hvalue, hprogram host _ setting files _ _ hread hvalue, hfault, hends⟩

end LocaleRelay
