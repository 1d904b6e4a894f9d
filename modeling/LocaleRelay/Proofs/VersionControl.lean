import LocaleRelay.Proofs.Conclusion
import LocaleRelay.Proofs.Repository

/-!
# What comes of using the version control program

Each use of the version control program is one command. Where its process ends well a use for its
effect is done, and asking for the commit gives the name that the process printed. Cloning first
makes the directory that the working copy will lie in, so that the program is never started without
it. A failure reports the command as a line of text, which tells the process exactly where the path
of the working copy is UTF-8.
-/

namespace LocaleRelay.Repository

open Files FileSystem

variable {host : Host} {setting : Setting} {files found : FileSystem} {path parent : RawPath}

/-! ### Commands for their effect -/

/-- A use for its effect gives no answer but that it is done. -/
def Done (_ : Launch) (result : Except ToolFailure Unit) : Prop := result = .ok ()

/-- The version control program concludes as its command does. -/
theorem concludes_run (host : Host) (number : Nat) (args : List (List UInt8)) (vars : Variables)
    (setting : Setting) (files : FileSystem) :
    (command number args vars).Concludes host setting.environment files .terminal Done
      ((run host number args vars).outcome setting files).effect := by
  unfold run
  dsimp only
  rw [Attempt.effect_bind_idle (.log _ _ _ _)]
  refine Command.concludes_judged ?_ ?_ ?_
  · intro finished
    split
    · exact .pure ()
    · exact .bind (.lift (.log _ _ _ _)) fun _ => .throw _
  · intro finished after hending
    rw [if_neg (fun h => hending (Ending.isSuccess_iff.mp h))]
    rfl
  · intro launch after _
    rfl

/-- What a process says of the commit when it ends well: the text that it wrote to its output,
without the white space around it, or that there is none. -/
inductive Names (host : Host) (launch : Launch) : Except ToolFailure String → Prop
  | named {name : String} (hname : name ≠ "")
      (h : Text.Trimmed
        (Text.lossyText (Chunk.output (host launch).chunks).data.toList) name) :
      Names host launch (.ok name)
  | unnamed
      (h : Text.Trimmed (Text.lossyText (Chunk.output (host launch).chunks).data.toList) "") :
      Names host launch
        (.error (.unusable launch.line "empty commit identifier"))

/-- A process says one thing of the commit. -/
theorem Names.unique {launch : Launch} {result other : Except ToolFailure String}
    (h : Names host launch result) (h' : Names host launch other) : result = other := by
  cases h with
  | named hname h =>
    cases h' with
    | named _ h' => rw [h.unique h']
    | unnamed h' => exact absurd (h.unique h') hname
  | unnamed h =>
    cases h' with
    | named hname h' => exact absurd (h'.unique h) hname
    | unnamed _ => rfl

/-- What is told of the commit once a process has ended. -/
private def told (command : Command) (finished : Finished) : Except ToolFailure String :=
  if finished.ending.isSuccess then
    if (commitName finished.output).isEmpty then
      .error (.unusable command.line "empty commit identifier")
    else .ok (commitName finished.output)
  else .error (.exit command.line finished.ending.code?)

end LocaleRelay.Repository
