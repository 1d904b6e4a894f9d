import LocaleRelay.Pipeline.Tools
import LocaleRelay.Proofs.Process
import LocaleRelay.Proofs.Report

/-!
# The tools that run processes, as rows

Each use of the version control system is one command, and cloning first makes the directory that
the working copy will lie in. No tool moves the program away from the directory that it works in.
-/

namespace LocaleRelay

open Files FileSystem

/-! ### Staying in a directory -/

/-- An attempt that leaves the program in the directory that it works in. -/
def Attempt.Stays {ε α : Type} (attempt : Attempt ε α) : Prop :=
  ∀ setting files, (attempt.outcome setting files).files.working = files.working

namespace Attempt.Stays

variable {ε δ α β : Type}

/-- An action that leaves the files leaves the program where it is. -/
theorem lift {act : Act α} (h : ∀ setting files, (act.run setting files).files = files) :
    Stays (ε := ε) (liftM act) := by
  intro setting files
  rw [outcome_lift, h]

/-- A failure leaves the program where it is. -/
theorem throw (failure : ε) : Stays (throw failure : Attempt ε α) := fun _ _ => rfl

/-- A result leaves the program where it is. -/
theorem pure (a : α) : Stays (Pure.pure a : Attempt ε α) := fun _ _ => rfl

/-- Attempts that stay do so one after the other. -/
theorem bind {first : Attempt ε α} {next : α → Attempt ε β} (hf : Stays first)
    (hn : ∀ a, Stays (next a)) : Stays (first >>= next) := by
  intro setting files
  cases hv : (first.outcome setting files).value with
  | ok a =>
    rw [outcome_bind_ok hv]
    exact (hn a setting _).trans (hf setting files)
  | error failure =>
    rw [outcome_bind_error hv]
    exact hf setting files

/-- An attempt stays whatever its failure is told as. -/
theorem mapFailure {attempt : Attempt ε α} (f : ε → δ) (h : Stays attempt) :
    Stays (attempt.mapFailure f) := by
  intro setting files
  rw [outcome_mapFailure]
  exact h setting files

/-- Making directories leaves the program where it is. -/
theorem makeAll (path : RawPath) (refuse : Fault → ε) : Stays (makeAll path refuse) := by
  intro setting files
  have hnames : ∀ dir ∈ Path.ancestors path, EndsInName dir :=
    fun _ => Path.endsInName_of_mem_ancestors
  rw [outcome_makeAll]
  exact (differsOnly_makeChain _ hnames files).working

/-- Running a command leaves the program where it is. -/
theorem execute (host : Host) (command : Command) (destination : Destination) :
    Stays (execute host command destination) :=
  fun setting files => working_execute host command destination setting files

end Attempt.Stays

namespace Repository

variable {host : Host} {setting : Setting} {files : FileSystem}

private theorem stays_log {ε : Type} (level : Level) (source : Source) (message : String)
    (fields : List Field) :
    Attempt.Stays (ε := ε) (liftM (Act.log level source message fields)) :=
  .lift fun _ _ => rfl

/-- The version control program leaves the program where it is. -/
theorem stays_run (host : Host) (number : Nat) (args : List (List UInt8)) (changes : Variables) :
    (run host number args changes).Stays := by
  unfold run
  refine .bind (stays_log _ _ _ _) fun _ => ?_
  refine .bind (.mapFailure _ (.execute _ _ _)) fun finished => ?_
  split
  · exact .pure ()
  · exact .bind (stays_log _ _ _ _) fun _ => .throw _

/-- Making the directory of a clone leaves the program where it is. -/
theorem stays_makeParent (path : RawPath) : (makeParent path).Stays := by
  unfold makeParent
  split
  · refine .bind (.lift fun _ _ => rfl) fun files => ?_
    split
    · exact .bind (.makeAll _ _) fun _ => stays_log _ _ _ _
    · exact .pure ()
  · exact .pure ()

/-- Cloning leaves the program where it is. -/
theorem stays_clone (host : Host) (remote : String) (path : RawPath) :
    (clone host remote path).Stays :=
  .bind (stays_makeParent path) fun _ => .bind (stays_run _ _ _ _) fun _ => stays_log _ _ _ _

/-- Pulling leaves the program where it is. -/
theorem stays_pull (host : Host) (path : RawPath) (remote : String) :
    (pull host path remote).Stays :=
  .bind (stays_run _ _ _ _) fun _ => stays_log _ _ _ _

/-- Asking for the commit leaves the program where it is. -/
theorem stays_headCommit (host : Host) (path : RawPath) : (headCommit host path).Stays := by
  refine .bind (.mapFailure _ (.execute _ _ _)) fun finished => ?_
  dsimp only
  split
  · split
    · exact .throw _
    · exact .pure _
  · exact .throw _

/-! ### Rows -/

/-- The command that clones. -/
def cloneCommand (remote : String) (path : RawPath) : Command :=
  command 0 [utf8 "clone", utf8 remote, path] .none

/-- The command that pulls. -/
def pullCommand (path : RawPath) (remote : String) : Command :=
  command 0 [utf8 "-C", path, utf8 "pull", utf8 "--ff-only", utf8 remote] .none

/-- The command that publishes. -/
def pushCommand (path : RawPath) (remote : String) (vars : Variables) : Command :=
  command 3 [utf8 "-C", path, utf8 "push", utf8 remote, utf8 "HEAD"] vars

private theorem follows_run_log {number : Nat} {args : List (List UInt8)} {changes : Variables}
    {level : Level} {source : Source} {message : String} {fields : List Field} :
    Follows Entry.launch? (Attempt.outcome (do
        run host number args changes
        Act.log level source message fields) setting files)
      [(command number args changes).step host setting.environment files] := by
  rw [← List.append_nil [_]]
  exact .bind (follows_run _ _ _ _ _ _) fun _ _ => .silent rfl

/-- Pulling is one step. -/
theorem follows_pull (host : Host) (path : RawPath) (remote : String) (setting : Setting)
    (files : FileSystem) :
    Follows Entry.launch? ((pull host path remote).outcome setting files)
      [(pullCommand path remote).step host setting.environment files] := follows_run_log

/-- Publishing is one step. -/
theorem follows_push (host : Host) (path : RawPath) (remote : String) (vars : Variables)
    (setting : Setting) (files : FileSystem) :
    Follows Entry.launch? ((push host path remote vars).outcome setting files)
      [(pushCommand path remote vars).step host setting.environment files] := follows_run_log

/-- Making the directory of a clone fails as a program that is not started, or adds events only. -/
theorem outcome_makeParent (path : RawPath) (setting : Setting) (files : FileSystem) :
    ∃ after, (∃ fault, (makeParent path).outcome setting files =
        ⟨.error (.launch program fault), after, []⟩) ∨
      ∃ entries, (∀ entry ∈ entries, ∃ event, entry = Entry.event event) ∧
        (makeParent path).outcome setting files = ⟨.ok (), after, entries⟩ := by
  unfold makeParent
  split
  · next parent h =>
    rw [Attempt.outcome_bind_ok (a := files) rfl, Attempt.outcome_lift]
    dsimp only [Act.run_files]
    split
    · have hmade := Attempt.outcome_makeAll parent (ToolFailure.launch program) setting files
      cases hm : (files.makeAll parent).2 with
      | error fault =>
        rw [hm] at hmade
        rw [Attempt.outcome_bind_error (e := .launch program fault) (by rw [hmade]; rfl), hmade]
        exact ⟨_, .inl ⟨fault, rfl⟩⟩
      | ok _ =>
        rw [hm] at hmade
        rw [Attempt.outcome_bind_ok (a := ()) (by rw [hmade]; rfl), hmade, Attempt.outcome_lift]
        exact ⟨_, .inr ⟨_, by simp, rfl⟩⟩
    · exact ⟨_, .inr ⟨_, by simp, rfl⟩⟩
  · exact ⟨_, .inr ⟨_, by simp, rfl⟩⟩

private theorem follows_makeParent (path : RawPath) (setting : Setting) (files : FileSystem) :
    Follows Entry.launch? ((makeParent path).outcome setting files)
      [⟨[], ((makeParent path).outcome setting files).failure?⟩] := by
  have hself := Follows.self Entry.launch? ((makeParent path).outcome setting files)
  have hnone : ((makeParent path).outcome setting files).entries.filterMap Entry.launch? = [] := by
    obtain ⟨after, ⟨fault, ho⟩ | ⟨entries, hevents, ho⟩⟩ := outcome_makeParent path setting files
    · rw [ho]
      rfl
    · rw [ho]
      exact passesEvents_launch?.filterMap_events hevents
  rw [hnone] at hself
  exact hself

/-- Cloning is the step of the command, after the directory that the working copy will lie in. -/
theorem follows_clone (host : Host) (remote : String) (path : RawPath) (setting : Setting)
    (files : FileSystem) :
    Follows Entry.launch? ((clone host remote path).outcome setting files)
      [⟨[], ((makeParent path).outcome setting files).failure?⟩,
        (cloneCommand remote path).step host setting.environment
          ((makeParent path).outcome setting files).files] :=
  .bind (follows_makeParent path setting files) fun _ _ => follows_run_log

end Repository

/-- The lint command leaves the program where it is. -/
theorem LintConfig.stays_run (host : Host) (lint : LintConfig) (sink : Location) :
    (lint.run host sink).Stays := by
  refine .bind (.lift fun _ _ => rfl) fun _ => ?_
  refine .bind (.mapFailure _ (.execute _ _ _)) fun finished => ?_
  split
  · exact .lift fun _ _ => rfl
  · exact .bind (.lift fun _ _ => rfl) fun _ => .throw _

/-- The credentials are there if the key is a regular file. They change nothing and add events
only. -/
theorem Credentials.outcome_ofKey (path : String) (setting : Setting) (files : FileSystem) :
    ∃ entries, (∀ entry ∈ entries, ∃ event, entry = Entry.event event) ∧
      (ofKey path).outcome setting files =
        ⟨if files.isFile (keyPath setting.home path) then
            .ok (Credentials.vars (keyPath setting.home path))
          else .error (.keyNotFound (keyPath setting.home path)), files, entries⟩ := by
  unfold ofKey
  rw [Attempt.outcome_bind_ok (a := setting) rfl, Attempt.outcome_lift,
    Attempt.outcome_bind_ok (a := files) rfl, Attempt.outcome_lift]
  dsimp only [Act.run_setting, Act.run_files]
  split
  · rw [Attempt.outcome_bind_ok (a := ()) rfl, Attempt.outcome_lift]
    exact ⟨_, by simp, rfl⟩
  · exact ⟨[], by simp, rfl⟩

/-- Finding the key shows nothing, but fails without one. -/
theorem Credentials.follows_ofKey (path : String) (setting : Setting) (files : FileSystem) :
    Follows Entry.launch? ((ofKey path).outcome setting files)
      [⟨[], if files.isFile (keyPath setting.home path) then none
        else some (.keyNotFound (keyPath setting.home path))⟩] := by
  obtain ⟨entries, hevents, hkey⟩ := outcome_ofKey path setting files
  have hnone := passesEvents_launch?.filterMap_events hevents
  rw [hkey]
  split
  · exact ⟨hnone, rfl⟩
  · exact ⟨hnone, rfl⟩

end LocaleRelay
