import LocaleRelay.Failure
import LocaleRelay.Process.Execute
import LocaleRelay.Proofs.Effects
import LocaleRelay.Proofs.Starting
import LocaleRelay.Proofs.Utf8

/-!
# What comes of a command

A command that is run to its end either is not started, and then nothing has happened, or it is one
process: what that wrote has been delivered, what it did to the files is done, and its ending
decides the result. A tool that runs one command and looks at how it ended concludes in one of three
ways.
-/

namespace LocaleRelay

open Files

/-! ### Delivered bytes -/

/-- What is kept of the bytes that a process writes. -/
def Destination.keeps (chunks : List Chunk) : Destination → ByteArray
  | .kept => Chunk.output chunks
  | .terminal | .file _ => ByteArray.empty

/-- The files once the bytes that a process writes have been delivered. -/
def Destination.taken (files : FileSystem) (chunks : List Chunk) : Destination → FileSystem
  | .file place => files.appendAll place (chunks.map (·.bytes))
  | .terminal | .kept => files

/-- The files that a process leaves. -/
def Course.leaves (course : Course) (destination : Destination) (files : FileSystem) : FileSystem :=
  let taken := destination.taken files course.chunks
  (course.edit taken).within taken.working

private theorem Chunk.foldl_acc (chunks : List Chunk) (content : ByteArray) :
    chunks.foldl (fun bytes chunk => bytes ++ chunk.bytes) content =
      content ++ Chunk.join chunks := by
  induction chunks generalizing content with
  | nil => exact ByteArray.append_empty.symm
  | cons chunk rest ih =>
    rw [Chunk.join, List.foldl_cons, List.foldl_cons, ih, ih, ByteArray.empty_append,
      ByteArray.append_assoc]

/-- Pieces added one by one to some bytes are their bytes in a row, after those. -/
theorem Chunk.foldl_bytes (chunks : List Chunk) (content : ByteArray) :
    (chunks.map (·.bytes)).foldl (· ++ ·) content = content ++ Chunk.join chunks := by
  rw [List.foldl_map]
  exact Chunk.foldl_acc chunks content

/-- Delivering bytes starts no process. -/
theorem effect_deliver (chunks : List Chunk) (destination : Destination) (setting : Setting)
    (files : FileSystem) :
    ((deliver chunks destination).run setting files).effect =
      (destination.keeps chunks, destination.taken files chunks, []) := by
  have hchunks : ∀ chunks : List Chunk, Journal.launches (chunks.map Chunk.entry) = [] := by
    intro chunks
    rw [Journal.launches, List.filterMap_map, List.filterMap_eq_nil_iff]
    intro chunk _
    rfl
  rw [Outcome.effect_eq_iff]
  cases destination with
  | terminal =>
    refine ⟨rfl, rfl, ?_⟩
    simp [deliver, hchunks]
  | kept =>
    refine ⟨rfl, rfl, ?_⟩
    simp [deliver, hchunks]
  | file place => exact ⟨rfl, rfl, rfl⟩

/-! ### The effect of a command -/

section

variable {α : Type} {command : Command} {setting : Setting} {files : FileSystem} {launch : Launch}

/-- A command that is not started has no effect but a fault. -/
theorem effect_execute_unstarted (host : Host) (destination : Destination) {fault : Fault}
    (h : command.launch setting.environment files = .error fault) :
    ((execute host command destination).outcome setting files).effect =
      (.error fault, files, []) := by
  unfold execute
  simp [Attempt.outcome_bind, h, Outcome.effect, Journal.launches]

/-- A command that is started has the effect of its process. -/
theorem effect_execute_started (host : Host) (destination : Destination)
    (h : command.Starts setting.environment files launch) :
    ((execute host command destination).outcome setting files).effect =
      (.ok ⟨destination.keeps (host launch).chunks, (host launch).ending⟩,
        (host launch).leaves destination files, [launch]) := by
  have hl := Command.launch_eq_ok_iff.mpr h
  obtain ⟨hvalue, hfiles, hlaunches⟩ := Outcome.effect_eq_iff.mp
    (effect_deliver (host launch).chunks destination setting files)
  rw [Outcome.effect_eq_iff]
  unfold execute
  simp only [Journal.launches] at hlaunches
  simp [Attempt.outcome_bind, hl, hvalue, hfiles, hlaunches, Journal.launches, Entry.launch?,
    Course.leaves, -bind_pure_comp]

/-- A process as one line: its program and arguments, read as text, with spaces between them. -/
def Launch.line (launch : Launch) : String := " ".intercalate (launch.argv.map Text.lossyText)

/-- The line of a command is that of the process that it starts. -/
theorem Command.Starts.line {env : Environment} (h : command.Starts env files launch) :
    command.line = launch.line := by
  rw [Launch.line, h.argv, List.map_cons, Text.lossyText_utf8]
  rfl

/-! ### Judging the ending -/

/-- An ending is a success exactly if the process exited with zero. -/
theorem Ending.isSuccess_iff {ending : Ending} : ending.isSuccess = true ↔ ending = .exited 0 := by
  rw [Ending.isSuccess, decide_eq_true_iff]

/-- How a tool concludes that runs one command. The command is not started and the tool tells why,
its process ends badly and the tool tells how, or it ends well and the tool gives an answer. -/
inductive Command.Concludes (host : Host) (env : Environment) (found : FileSystem)
    (command : Command) (destination : Destination)
    (Answers : Launch → Except ToolFailure α → Prop) :
    Except ToolFailure α × FileSystem × List Launch → Prop
  | unstarted {fault : Fault} (h : command.CannotStart env found) :
      Concludes host env found command destination Answers
        (.error (.launch command.program fault), found, [])
  | failed {launch : Launch} (h : command.Starts env found launch)
      (hending : (host launch).ending ≠ .exited 0) :
      Concludes host env found command destination Answers
        (.error (.exit launch.line (host launch).ending.code?),
          (host launch).leaves destination found, [launch])
  | completed {launch : Launch} {result : Except ToolFailure α}
      (h : command.Starts env found launch) (hending : (host launch).ending = .exited 0)
      (hresult : Answers launch result) :
      Concludes host env found command destination Answers
        (result, (host launch).leaves destination found, [launch])

namespace Command.Concludes

variable {host : Host} {env : Environment} {destination : Destination}
  {Answers : Launch → Except ToolFailure α → Prop}
  {effect : Except ToolFailure α × FileSystem × List Launch}

/-- What comes of a command that is started. -/
theorem of_starts (h : command.Concludes host env files destination Answers effect)
    (hstarts : command.Starts env files launch) :
    effect.2 = ((host launch).leaves destination files, [launch]) ∧
      ((host launch).ending ≠ .exited 0 →
        effect.1 = .error (.exit command.line (host launch).ending.code?)) ∧
      ((host launch).ending = .exited 0 → Answers launch effect.1) := by
  cases h with
  | unstarted hcannot => exact absurd hcannot hstarts.not_cannotStart
  | failed h hending =>
    rw [hstarts.unique h, h.line]
    exact ⟨rfl, fun _ => rfl, fun he => absurd he hending⟩
  | completed h hending hresult =>
    rw [hstarts.unique h]
    exact ⟨rfl, fun hne => absurd hending hne, fun _ => hresult⟩

/-- What comes of a command that cannot be started. -/
theorem of_cannotStart (h : command.Concludes host env files destination Answers effect)
    (hcannot : command.CannotStart env files) :
    ∃ fault, effect = (.error (.launch command.program fault), files, []) := by
  cases h with
  | unstarted => exact ⟨_, rfl⟩
  | failed h => exact absurd hcannot h.not_cannotStart
  | completed h => exact absurd hcannot h.not_cannotStart

end Command.Concludes

section

variable {host : Host} {destination : Destination} {next : Finished → Attempt ToolFailure α}

/-- The effect of a tool whose command is not started: none but that it tells why. -/
theorem effect_judged_unstarted {fault : Fault}
    (h : command.launch setting.environment files = .error fault) :
    (((execute host command destination).mapFailure (.launch command.program) >>= next).outcome
      setting files).effect = (.error (.launch command.program fault), files, []) :=
  Attempt.effect_bind_error
    (Attempt.effect_mapFailure _ (effect_execute_unstarted host destination h))

/-- The effect of a tool that looks at how its command ended: that of the process, and the result of
looking. -/
theorem effect_judged_started (hidle : ∀ finished, (next finished).Idle)
    (h : command.Starts setting.environment files launch) :
    (((execute host command destination).mapFailure (.launch command.program) >>= next).outcome
      setting files).effect =
        (((next ⟨destination.keeps (host launch).chunks, (host launch).ending⟩).outcome setting
          ((host launch).leaves destination files)).value,
          (host launch).leaves destination files, [launch]) := by
  have hrun := Attempt.effect_mapFailure (ToolFailure.launch command.program)
    (effect_execute_started host destination h)
  rw [Attempt.effect_bind_ok hrun (hidle _).effect_outcome, List.append_nil]

/-- A tool that runs a command and then only looks at how that ended concludes. -/
theorem Command.concludes_judged {Answers : Launch → Except ToolFailure α → Prop}
    (hidle : ∀ finished, (next finished).Idle)
    (hfailed : ∀ finished after, finished.ending ≠ .exited 0 →
      ((next finished).outcome setting after).value =
        .error (.exit command.line finished.ending.code?))
    (hcompleted : ∀ launch after, command.Starts setting.environment files launch →
      Answers launch
        ((next ⟨destination.keeps (host launch).chunks, .exited 0⟩).outcome setting after).value) :
    command.Concludes host setting.environment files destination Answers
      (((execute host command destination).mapFailure (.launch command.program) >>= next).outcome
        setting files).effect := by
  cases hl : command.launch setting.environment files with
  | error fault =>
    rw [effect_judged_unstarted hl]
    exact .unstarted (Command.launch_eq_error_iff.mp ⟨fault, hl⟩)
  | ok launch =>
    have hstarts := Command.launch_eq_ok_iff.mp hl
    rw [effect_judged_started hidle hstarts]
    by_cases hending : (host launch).ending = .exited 0
    · refine .completed hstarts hending ?_
      rw [hending]
      exact hcompleted launch _ hstarts
    · rw [hfailed _ _ hending, hstarts.line]
      exact .failed hstarts hending

end

end

end LocaleRelay
