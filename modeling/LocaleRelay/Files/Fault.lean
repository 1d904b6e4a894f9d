/-!
# Faults of the operating system

Why an operation on files or processes was refused, and the two texts of each reason: the message
for people and the structured form for logs. A reason with a number comes from the system; the
others are found before the system is asked.
-/

namespace LocaleRelay.Files

/-- The reason why an operation was refused. No system call can be given a path or an argument with
a NUL, and `described` is a fault known by its message alone. -/
inductive Fault where
  | notFound
  | denied
  | alreadyExists
  | notDirectory
  | isDirectory
  | noSpace
  | nameTooLong
  | tooManyLinks
  | nulInPath
  | nulInArgument
  | notText
  | described (message : String)
  deriving Repr, DecidableEq

namespace Fault

/-- The number, the kind and the words of a fault that the system reports. -/
def system? : Fault → Option (Nat × String × String)
  | notFound => some (2, "NotFound", "No such file or directory")
  | denied => some (13, "PermissionDenied", "Permission denied")
  | alreadyExists => some (17, "AlreadyExists", "File exists")
  | notDirectory => some (20, "NotADirectory", "Not a directory")
  | isDirectory => some (21, "IsADirectory", "Is a directory")
  | noSpace => some (28, "StorageFull", "No space left on device")
  | nameTooLong => some (36, "InvalidFilename", "File name too long")
  | tooManyLinks => some (40, "FilesystemLoop", "Too many levels of symbolic links")
  | nulInPath | nulInArgument | notText | described _ => none

/-- The kind and the words of a fault found before the system is asked. -/
def local? : Fault → Option (String × String)
  | nulInPath => some ("InvalidInput", "file name contained an unexpected NUL byte")
  | nulInArgument => some ("InvalidInput", "nul byte found in provided data")
  | notText => some ("InvalidData", "stream did not contain valid UTF-8")
  | _ => none

/-- The message of a fault. -/
def message (fault : Fault) : String :=
  match fault with
  | described text => text
  | _ =>
    match fault.system?, fault.local? with
    | some (number, _, words), _ => words ++ " (os error " ++ toString number ++ ")"
    | none, some (_, words) => words
    | none, none => ""

/-- The structured form of a fault. -/
def structured (fault : Fault) : String :=
  match fault with
  | described text => text
  | _ =>
    match fault.system?, fault.local? with
    | some (number, kind, words), _ =>
      "Os \x7b code: " ++ toString number ++ ", kind: " ++ kind ++ ", message: \"" ++ words ++
        "\" \x7d"
    | none, some (kind, words) =>
      "Error \x7b kind: " ++ kind ++ ", message: \"" ++ words ++ "\" \x7d"
    | none, none => ""

end Fault

end LocaleRelay.Files
