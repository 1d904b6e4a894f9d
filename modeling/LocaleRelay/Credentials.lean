import LocaleRelay.Action
import LocaleRelay.Failure
import LocaleRelay.Text.Shell

/-!
# Credentials for publishing

The key that publishing uses, and the one variable that makes the version control program use it.
The variable holds a shell command, so the path of the key is written as a single shell word.
-/

namespace LocaleRelay

open Files

namespace Credentials

/-- The variable that holds the command by which the version control program connects. -/
def variableName : String := "GIT_SSH_COMMAND"

/-- The path of a key with a leading tilde replaced by the home directory. Where there is none, a
tilde alone leaves nothing, and a path that goes on after it stays as it is written. -/
def keyPath (home : Option RawPath) (path : String) : RawPath :=
  match path.toList with
  | ['~'] => home.getD []
  | '~' :: '/' :: rest =>
    match home with
    | some home => Path.join home (utf8 (String.ofList rest))
    | none => utf8 path
  | _ => utf8 path

/-- The command that connects with a key and with no other. The key is named as it is displayed. -/
def connectCommand (key : RawPath) : String :=
  "ssh -i " ++ String.ofList (Text.Shell.quotePath (Text.lossyText key).toList) ++
    " -o IdentitiesOnly=yes"

/-- The variables that make publishing use a key. -/
def vars (key : RawPath) : Variables := ⟨[(variableName, connectCommand key)]⟩

/-- The variables for the configured key, which has to be a regular file. -/
def ofKey (path : String) : Attempt PublishFailure Variables := do
  let key := keyPath (← Act.setting).home path
  if (← Act.files).isFile key then
    Act.log .info .credentials "Using dedicated ssh key for push"
      [⟨"key", .bare (Text.lossyText key)⟩]
    return vars key
  else
    throw (.keyNotFound key)

end Credentials

end LocaleRelay
