import LocaleRelay.Action

/-!
# Running processes to their end

A command is started, what it writes goes where its streams lead, it changes the files, and it ends.
The streams lead to the terminal, into a text that is kept, or both to the end of an opened file.
-/

namespace LocaleRelay

open Files

/-- Where the streams of a process lead: both to the terminal, only the errors while the output is
kept, or both to the end of an opened file in the order in which they are written. -/
inductive Destination where
  | terminal
  | kept
  | file (place : Location)

/-- A process that has ended, with what it wrote where that was kept. -/
structure Finished where
  output : ByteArray
  ending : Ending

/-- The entry for bytes that go to the terminal. -/
def Chunk.entry (chunk : Chunk) : Entry := .terminal chunk.stream chunk.bytes

/-- Hand on what a process writes and keep what is to be kept. -/
def deliver (chunks : List Chunk) : Destination → Act ByteArray
  | .terminal => do
    Act.recordAll (chunks.map Chunk.entry)
    return ByteArray.empty
  | .kept => do
    Act.recordAll ((chunks.filter fun chunk => chunk.stream = .errors).map Chunk.entry)
    return Chunk.output chunks
  | .file place => do
    Act.setFiles ((← Act.files).appendAll place (chunks.map (·.bytes)))
    return ByteArray.empty

/-- Run a command to its end. The process may change every file, but the program itself stays in the
directory it works in. -/
def execute (host : Host) (command : Command) (destination : Destination) :
    Attempt Fault Finished := do
  match command.launch (← Act.setting).environment (← Act.files) with
  | .error fault => throw fault
  | .ok launch =>
    Act.record (.launch launch)
    let course := host launch
    let output ← deliver course.chunks destination
    let files ← Act.files
    Act.setFiles ((course.edit files).within files.working)
    return { output, ending := course.ending }

end LocaleRelay
