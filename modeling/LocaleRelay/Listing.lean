import LocaleRelay.Action
import LocaleRelay.Text.Lossy

/-!
# Directory listings

The entries of a directory, hidden ones included, in the order of their names, and the listing of
the home directory in the log. A name that is not UTF-8 is listed with replacement characters;
entries whose names then look alike stay in the order in which the directory holds them.
-/

namespace LocaleRelay

open Files

/-- An entry of a listing. -/
structure Listed where
  name : String
  isDirectory : Bool
  length : Nat
  deriving Repr, DecidableEq

namespace Listed

variable (directoryLength : List (Name × Node) → Nat)

/-- The length of a node in bytes: that of a link is the length of its path, and that of a directory
is up to the system. -/
def lengthOf : Node → Nat
  | .file content _ => content.size
  | .device _ => 0
  | .link target => target.length
  | .directory entries => directoryLength entries

/-- An entry of a directory as a listing shows it. -/
def ofEntry (entry : Name × Node) : Listed where
  name := Text.lossyText entry.1
  isDirectory := entry.2.isDirectory
  length := lengthOf directoryLength entry.2

/-- Whether the name of an entry does not come after that of another. -/
def notAfter (first second : Listed) : Bool := first.name ≤ second.name

/-- The listing of a directory's entries. -/
def ofEntries (entries : List (Name × Node)) : List Listed :=
  (entries.map (ofEntry directoryLength)).mergeSort notAfter

/-- A text at the right end of a column. -/
def column (width : Nat) (text : String) : String :=
  String.ofList (List.replicate (width - text.length) ' ') ++ text

/-- The line of an entry: its kind, its length in a column of ten, its name. -/
def line (listed : Listed) : String :=
  (if listed.isDirectory then "d" else "-") ++ " " ++ column 10 (toString listed.length) ++ " " ++
    listed.name

/-- The listing of a directory. -/
def ofDirectory (files : FileSystem) (path : RawPath) : Except Fault (List Listed) :=
  (files.entries path).map (ofEntries directoryLength)

/-- Log the lines of a listing. -/
def logLines : List Listed → Act Unit
  | [] => return ()
  | listed :: rest => do
    Act.log .info .listing listed.line []
    logLines rest

/-- Log the listing of a home directory. One that cannot be listed is only worth a warning. -/
def logDirectory (home : RawPath) : Act Unit := do
  match ofDirectory (← Act.setting).directoryLength (← Act.files) home with
  | .ok listing =>
    Act.log .info .listing "Home directory listing"
      [⟨"home", .bare (Text.lossyText home)⟩, ⟨"entries", .bare (toString listing.length)⟩]
    logLines listing
  | .error fault =>
    Act.log .warn .listing "Failed to list home directory"
      [⟨"home", .bare (Text.lossyText home)⟩, ⟨"error", .bare fault.message⟩]

/-- Log the listing of the home directory. That there is none is only worth a warning, too. -/
def logHome : Act Unit := do
  match (← Act.setting).home with
  | some home => logDirectory home
  | none => Act.log .warn .listing "No home directory found; skipping listing" []

end Listed

end LocaleRelay
