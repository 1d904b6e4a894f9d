import LocaleRelay.Session

/-!
# The program's entry

The outer layer: it takes the arguments, the home directory and the configuration file from the
system and shows what a session sends to the two streams of the terminal. It has no means to start
other programs, so a session ends where it needs the first one.
-/

namespace LocaleRelay

open Files

/-- A host that runs nothing: every process would end well at once. -/
def idleHost : Host := fun _ => { chunks := [], edit := id, ending := .exited 0 }

/-- The files that a session starts from: the configuration file, if there is one. -/
def startingFiles (config : Option (String × ByteArray)) : FileSystem :=
  let empty : FileSystem := { root := .directory [], working := [] }
  match config with
  | none => empty
  | some (path, content) =>
    let files :=
      match Path.namedParent? (utf8 path) with
      | none => empty
      | some parent => (empty.makeAll parent).1
    files.place (utf8 path) (.file content false)

end LocaleRelay

open LocaleRelay in
/-- Run a session and exit with its status. -/
def main (arguments : List String) : IO UInt32 := do
  let home := (← IO.getEnv "HOME").filter (· ≠ "")
  let path :=
    match Arguments.read arguments with
    | .ok options => options.config
    | .error _ => none
  let config ←
    match path with
    | none => pure none
    | some path =>
      try
        pure (some (path, ← IO.FS.readBinFile path))
      catch _ => pure none
  let setting : Setting :=
    { home := home.map utf8, environment := .empty, directoryLength := fun _ => 0 }
  let outcome := (Program.perform idleHost arguments).run setting (startingFiles config)
  (← IO.getStderr).write (Program.errorOutput "" arguments outcome.entries)
  (← IO.getStdout).write (Journal.terminal .output outcome.entries)
  return UInt32.ofNat outcome.value
