import LocaleRelay.Action
import LocaleRelay.Failure
import LocaleRelay.Text.Line

/-!
# The status report

A text file that begins with the commit it is about, followed by an empty line and by what the lint
command printed. Beginning a report drops the one before it; the lint output is added at the end, so
the first line stays what it was.
-/

namespace LocaleRelay

open Files

namespace Report

/-- The words before the commit in the first line. -/
def label : String := "l10n git hash: "

/-- The beginning of a report about a commit. -/
def header (commit : String) : String := label ++ commit ++ "\n\n"

/-- The commit that a report is about, if its first line says so. -/
def recordedCommit? (content : String) : Option String :=
  (Text.after? label.toList (Text.firstLine content.toList)).map String.ofList

/-- The failure to write to a path. -/
def refuse (path : RawPath) (fault : Fault) : RunFailure := .write path fault

/-- Make the directory that a report lies in. -/
def makeDirectory (path : RawPath) : Attempt RunFailure Unit := do
  if let some parent := Path.namedParent? path then Attempt.makeAll parent (refuse parent)

/-- Drop what a report held and write the header. -/
def writeHeader (path : RawPath) (commit : String) : Attempt RunFailure Unit :=
  Attempt.change fun files =>
    (files.write path (header commit).toUTF8).mapError (refuse path)

/-- Begin a report about a commit. -/
def begin (path : RawPath) (commit : String) : Attempt RunFailure Unit := do
  makeDirectory path
  writeHeader path commit
  Act.log .debug .report "Initialised status report"
    [⟨"path", .bare (Text.lossyText path)⟩, ⟨"hash", .quoted commit⟩]

/-- Open a report that is there for adding at its end. -/
def openAppend (path : RawPath) : Attempt RunFailure Location := do
  match (← Act.files).openAppend path with
  | .ok place => pure place
  | .error fault => throw (refuse path fault)

end Report

/-- Add bytes at the end of an opened file. -/
def appendTo (place : Location) (bytes : ByteArray) : Attempt Fault Unit :=
  Attempt.change fun files => files.append place bytes

end LocaleRelay
