import LocaleRelay.Files.FileSystem
import LocaleRelay.Process.Environment
import LocaleRelay.Text.Lossy

/-!
# Starting processes

A command, what it takes to start it, and what a started process does. Everything that can keep a
command from starting is decided before it runs: arguments with a NUL, the working directory, and
the search for the program. What the process then does is an answer of the host that runs it.
-/

namespace LocaleRelay

open Files

/-- A command to be run to its end. Its number is how many processes a run starts before it, which
tells apart commands that are the same otherwise. A program with a slash in it is a path, and any
other one a name to be searched for. -/
structure Command where
  number : Nat
  program : String
  args : List (List UInt8)
  directory : Option RawPath
  vars : Variables
  deriving Repr, DecidableEq

/-- A program with its arguments as one line. -/
def commandLine (program : String) (args : List String) : String :=
  " ".intercalate (program :: args)

/-- A command as one line, for logs and messages. Arguments are read as text, which may lose some of
their bytes. -/
def Command.line (command : Command) : String :=
  commandLine command.program (command.args.map Text.lossyText)

/-- A process that was started: the number of its command, the program as it was called and its
arguments, the directory that it runs in and the variables that it sees. -/
structure Launch where
  number : Nat
  argv : List (List UInt8)
  directory : Location
  environment : Environment
  deriving Repr, DecidableEq

/-- The two streams of a process. -/
inductive Stream where
  | output
  | errors
  deriving Repr, DecidableEq

/-- Bytes that a process writes to a stream at once. -/
structure Chunk where
  stream : Stream
  bytes : ByteArray

/-- How a process ends: by itself with a status, or by a signal. -/
inductive Ending where
  | exited (status : Nat)
  | killed (signal : Nat)
  deriving Repr, DecidableEq

namespace Ending

/-- Whether a process ended well. -/
def isSuccess (ending : Ending) : Bool := ending = exited 0

/-- The status of a process that ended by itself. -/
def code? : Ending → Option Int
  | exited status => some status
  | killed _ => none

/-- An ending as the system encodes it. -/
def waitStatus : Ending → Nat
  | exited status => 256 * status
  | killed signal => signal

/-- An ending as the log shows it. -/
def structured (ending : Ending) : String :=
  "ExitStatus(unix_wait_status(" ++ toString ending.waitStatus ++ "))"

end Ending

/-- What a started process does: what it writes in order, what it does to the files then, and how it
ends. -/
structure Course where
  chunks : List Chunk
  edit : FileSystem → FileSystem
  ending : Ending

/-- The world that runs processes: for each one started, what it does. No two processes of a run
have the same number, so each has a course of its own. -/
def Host := Launch → Course

/-- The bytes of some chunks, one after the other. -/
def Chunk.join (chunks : List Chunk) : ByteArray :=
  chunks.foldl (fun bytes chunk => bytes ++ chunk.bytes) ByteArray.empty

/-- What is written to the output stream among some chunks. -/
def Chunk.output (chunks : List Chunk) : ByteArray :=
  Chunk.join (chunks.filter fun chunk => chunk.stream = .output)

namespace Command

/-- Whether bytes cannot be handed to a process. -/
def hasNul (bytes : List UInt8) : Bool := bytes.contains 0

/-- Whether a part of a command cannot be handed to a process. -/
def isUnusable (command : Command) : Bool :=
  hasNul (utf8 command.program) || command.args.any hasNul || command.directory.any hasNul ||
    command.vars.pairs.any fun pair => hasNul (utf8 pair.1) || hasNul (utf8 pair.2)

/-- Whether a program can be run, as seen from the working directory. -/
def checkProgram (fs : FileSystem) (path : RawPath) : Except Fault Unit :=
  match fs.lookup path with
  | .ok (_, .file _ true) => .ok ()
  | .ok _ => .error .denied
  | .error fault => .error fault

/-- Whether a directory that refuses a program for some reason is passed over in a search. -/
def isPassedOver : Fault → Bool
  | .notFound | .notDirectory | .denied => true
  | _ => false

/-- Look for a program in directories. Where no directory has it the fault of the last one tells
why, but a program that is there and may not be run tells more than one that is not there. -/
def search (fs : FileSystem) (program : String) (last : Fault) : List String → Except Fault Unit
  | [] => .error last
  | dir :: more =>
    match checkProgram fs (Path.join (utf8 dir) (utf8 program)) with
    | .ok () => .ok ()
    | .error fault =>
      if isPassedOver fault then
        search fs program (if last = .denied then .denied else fault) more
      else .error fault

/-- The directories searched where the environment names none. -/
def defaultSearch : List String := ["/bin", "/usr/bin"]

/-- An entry of a search path has fewer bytes than this. -/
def entryLimit : Nat := 4096

/-- The directories that the entries of a search path name. The working directory is searched in
place of an entry that is too long, unless it is the last one. -/
def searchable : List String → List String
  | [] => []
  | [last] => if last.utf8ByteSize < entryLimit then [last] else []
  | dir :: more => (if dir.utf8ByteSize < entryLimit then dir else "") :: searchable more

/-- The directories in which an environment looks for programs. -/
def searchPath (env : Environment) : List String :=
  match env.get? "PATH" with
  | some dirs => searchable (dirs.splitOn ":")
  | none => defaultSearch

/-- Find the program of a command from a working directory. -/
def findProgram (fs : FileSystem) (env : Environment) (program : String) : Except Fault Unit :=
  if program.isEmpty then .error .notFound
  else if program.toList.contains '/' then checkProgram fs (utf8 program)
  else search fs program .notFound (searchPath env)

/-- The place of the directory that a command runs in. -/
def findDirectory (fs : FileSystem) : Option RawPath → Except Fault Location
  | none => .ok fs.working
  | some path =>
    match fs.lookup path with
    | .ok (place, .directory _) => .ok place
    | .ok _ => .error .notDirectory
    | .error fault => .error fault

/-- The process that a command starts, or why it starts none. -/
def launch (command : Command) (env : Environment) (fs : FileSystem) : Except Fault Launch := do
  if command.isUnusable then throw .nulInArgument
  let directory ← findDirectory fs command.directory
  let environment := env.apply command.vars
  findProgram (fs.within directory) environment command.program
  return { number := command.number, argv := utf8 command.program :: command.args, directory,
           environment }

end Command

end LocaleRelay
