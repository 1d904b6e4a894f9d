import LocaleRelay.Proofs.Pipeline.Processes
import LocaleRelay.Proofs.ShellWords

/-!
# What publishing hands over

The process that publishes is given variables and, in one of them, the path of a key. Of several
values for one variable it finds the last, while the list of them is read from the front. It reads
the path of the key from the working copy, while the key is looked for from the directory that the
program works in; only a path that leads to the same file from both names the key that was found.
-/

namespace LocaleRelay

open Files FileSystem

variable {host : Host} {setting : Setting} {files : FileSystem} {launch : Launch}

/-! ### Variables -/

/-- What a process sees under a name is what is read from the changes that it was given: the value
that is read for the name, or the value from before if none is read. -/
def Variables.SeenBy (vars : Variables) (before seen : Environment) (name : String) : Prop :=
  seen.get? name = (vars.get? name).or (before.get? name)

private theorem or_left_inj {α : Type} {first second other : Option α}
    (h : first = none ↔ second = none) : first.or other = second.or other ↔ first = second := by
  cases first with
  | none => simp [h.mp rfl]
  | some a =>
    cases second with
    | none => simp at h
    | some b => rfl

/-- A name has a first value exactly if it has a last one. -/
theorem Variables.get?_eq_none_iff (vars : Variables) (name : String) :
    vars.get? name = Option.none ↔ vars.last? name = Option.none := by
  simp [get?, last?]

namespace Repository

/-- The process that publishing starts is the one of its command. -/
theorem mem_launches_push_iff {path : RawPath} {remote : String} {vars : Variables} :
    launch ∈ Journal.launches ((push host path remote vars).outcome setting files).entries ↔
      (pushCommand path remote vars).launch setting.environment files = .ok launch := by
  have hshown : Journal.launches ((push host path remote vars).outcome setting files).entries = _ :=
    (follows_push host path remote vars setting files).shown
  rw [hshown, Steps.shown_singleton, Command.step]
  cases (pushCommand path remote vars).launch setting.environment files with
  | error fault => simp [Except.toOption]
  | ok other => simp [Except.toOption, eq_comm]

/-- The process that publishes finds under a name the last value that it was given for it, or else
the one that the program was started with. That is what is read from the variables exactly if the
first value given for the name is the last one. -/
theorem seenBy_push_iff {path : RawPath} {remote : String} {vars : Variables}
    (hlaunch : launch ∈
      Journal.launches ((push host path remote vars).outcome setting files).entries)
    (hvars : ∀ pair ∈ vars.pairs, '=' ∉ pair.1.toList) (name : String)
    (hname : '=' ∉ name.toList) :
    launch.environment.get? name = (vars.last? name).or (setting.environment.get? name) ∧
      (vars.SeenBy setting.environment launch.environment name ↔
        vars.get? name = vars.last? name) := by
  obtain ⟨-, -, -, henv⟩ := Command.launch_eq_ok (mem_launches_push_iff.mp hlaunch)
  have hlast : launch.environment.get? name =
      (vars.last? name).or (setting.environment.get? name) := by
    rw [henv]
    exact Environment.get?_apply hname setting.environment hvars
  refine ⟨hlast, ?_⟩
  rw [Variables.SeenBy, hlast, or_left_inj (vars.get?_eq_none_iff name).symm]
  exact eq_comm

/-- A variable that is given once, one that is not given, and one that is given two values. -/
theorem seenBy_push_iff_mixed :
    let host : Host := fun _ => ⟨[], id, .exited 0⟩
    let setting : Setting := ⟨some (utf8 "/home"), ⟨[("LANG", "C")]⟩, fun _ => 4096⟩
    let files : FileSystem := ⟨.directory [(utf8 "bin", .directory
      [(utf8 "git", .file ByteArray.empty true)])], []⟩
    let vars : Variables := ⟨[("TERM", "dumb"), ("GIT_SSH_COMMAND", "ssh"), ("TERM", "vt100")]⟩
    let pushed := (push host (utf8 "locale") "prod" vars).outcome setting files
    ∃ launch ∈ Journal.launches pushed.entries,
      (∀ pair ∈ vars.pairs, '=' ∉ pair.1.toList) ∧
      vars.SeenBy setting.environment launch.environment "GIT_SSH_COMMAND" ∧
      vars.SeenBy setting.environment launch.environment "LANG" ∧
      launch.environment.get? "TERM" = some "vt100" ∧
      ¬ vars.SeenBy setting.environment launch.environment "TERM" := by
  intro host setting files vars pushed
  have hlaunches : Journal.launches pushed.entries =
      [⟨3, ["git", "-C", "locale", "push", "prod", "HEAD"].map utf8, [],
        ⟨[("GIT_SSH_COMMAND", "ssh"), ("LANG", "C"), ("TERM", "vt100")]⟩⟩] := by
    decide +kernel
  have hmem := hlaunches ▸ List.mem_singleton_self _
  have hvars : ∀ pair ∈ vars.pairs, '=' ∉ pair.1.toList := by decide
  have hcommand := seenBy_push_iff hmem hvars "GIT_SSH_COMMAND" (by decide)
  have hlang := seenBy_push_iff hmem hvars "LANG" (by decide)
  have hterm := seenBy_push_iff hmem hvars "TERM" (by decide)
  refine ⟨_, hmem, hvars, hcommand.2.mpr (by decide), hlang.2.mpr (by decide), ?_, ?_⟩
  · exact hterm.1
  · exact mt hterm.2.mp (by decide)

/-- A process that is given two commands to connect finds the second one, where the first is
read. -/
theorem not_seenBy_push_two_commands :
    let host : Host := fun _ => ⟨[], id, .exited 0⟩
    let setting : Setting := ⟨some (utf8 "/home"), .empty, fun _ => 4096⟩
    let files : FileSystem := ⟨.directory [(utf8 "bin", .directory
      [(utf8 "git", .file ByteArray.empty true)])], []⟩
    let vars : Variables :=
      ⟨[("GIT_SSH_COMMAND", "ssh -i old"), ("GIT_SSH_COMMAND", "ssh -i new")]⟩
    let pushed := (push host (utf8 "locale") "prod" vars).outcome setting files
    ∃ launch ∈ Journal.launches pushed.entries,
      vars.get? "GIT_SSH_COMMAND" = some "ssh -i old" ∧
      launch.environment.get? "GIT_SSH_COMMAND" = some "ssh -i new" ∧
      ¬ vars.SeenBy setting.environment launch.environment "GIT_SSH_COMMAND" := by
  intro host setting files vars pushed
  have hlaunches : Journal.launches pushed.entries =
      [⟨3, ["git", "-C", "locale", "push", "prod", "HEAD"].map utf8, [],
        ⟨[("GIT_SSH_COMMAND", "ssh -i new")]⟩⟩] := by
    decide +kernel
  refine ⟨_, hlaunches ▸ List.mem_singleton_self _, by decide, by decide, ?_⟩
  unfold Variables.SeenBy
  decide

end Repository

/-! ### The key -/

namespace Text.Shell

/-- The characters of a word, read as a text. -/
def text (word : List Letter) : String := String.ofList (word.map Letter.char)

/-- The word that comes after an option among the words of a command. -/
def argument? (option : String) : List (List Letter) → Option String
  | word :: next :: rest =>
    if text word = option then some (text next) else argument? option (next :: rest)
  | _ => none

/-- What a bare word says. -/
theorem text_bare (word : String) : text (bare word) = word := by
  simp [text, bare, List.map_map, Function.comp_def]

/-- What a literal word says. -/
theorem text_literally (word : String) : text (literally word) = word := by
  simp [text, literally, List.map_map, Function.comp_def]

end Text.Shell

/-- The path of the key in a command that connects: the word after its option `-i`. -/
def Credentials.identity? (command : String) : Option String :=
  (Text.Shell.words? command.toList).bind (Text.Shell.argument? "-i")

/-- The command that connects with a key has the name of the key after its option. -/
theorem Credentials.identity?_connectCommand (key : RawPath) :
    identity? (connectCommand key) = some (Text.Shell.named (Text.lossyText key)) := by
  have hssh : ¬ "ssh" = "-i" := by decide
  rw [identity?, words?_connectCommand, Option.bind_some]
  simp only [Text.Shell.argument?, Text.Shell.text_bare, Text.Shell.text_literally, hssh,
    ↓reduceIte]

/-- The directory that the version control system moves to for its option `-C`. An empty path lets
it stay. -/
def Repository.workspace? (files : FileSystem) (path : RawPath) : Option Location :=
  if path.isEmpty then some files.working
  else (Command.findDirectory files (some path)).toOption

namespace Launch

/-- The directory that a process of the version control system works in: the one of its option
`-C`, to which it moves before all else. -/
def workspace? (launch : Launch) (files : FileSystem) : Option Location :=
  match launch.argv with
  | _ :: option :: path :: _ =>
    if option = utf8 "-C" then Repository.workspace? (files.within launch.directory) path else none
  | _ => none

/-- The path of the key that a process connects with, from the command that it is given for it. -/
def keyPath? (launch : Launch) : Option String :=
  (launch.environment.get? Credentials.variableName).bind Credentials.identity?

/-- What a process finds at the path of its key. It connects from the directory that it works in, so
that is where the path is resolved. -/
def key? (launch : Launch) (files : FileSystem) : Option (Location × Node) :=
  (launch.workspace? files).bind fun workspace =>
    launch.keyPath?.bind fun path => ((files.within workspace).lookup (utf8 path)).toOption

end Launch

private theorem toOption_eq_some_iff {ε α : Type} {result : Except ε α} {a : α} :
    result.toOption = some a ↔ result = .ok a := by
  cases result <;> simp [Except.toOption]

/-- A text is found under its name where it is found under itself, if the name is not too long. -/
theorem Text.Shell.lookup_named_iff {path : String} {found : Location × Node} :
    files.lookup (utf8 (named path)) = .ok found ↔
      (utf8 (named path)).length < pathLimit ∧ files.lookup (utf8 path) = .ok found := by
  have hshort : files.lookup (utf8 (named path)) = .ok found →
      (utf8 (named path)).length < pathLimit := by
    intro h
    obtain ⟨route, hroute, -⟩ := locate_eq_ok_iff.mp (lookup_eq_ok_iff.mp h)
    exact (Route.parse_eq_ok_iff.mp hroute).2.1
  have hsame : (utf8 (named path)).length < pathLimit →
      files.lookup (utf8 (named path)) = files.lookup (utf8 path) := by
    intro hlength
    by_cases hdash : path.toList.head? = some '-'
    · have hname : utf8 (named path) = selfName ++ slash :: utf8 path := by
        rw [named, if_pos hdash, utf8_append]
        rfl
      have hrelative : (utf8 path).head? ≠ some slash := by
        intro h
        obtain ⟨rest, hrest⟩ := String.startsWith_string_iff.mp
          (Path.isAbsolute_utf8_iff.mp (decide_eq_true h))
        rw [← hrest] at hdash
        cases hdash
      have hne : utf8 path ≠ [] := by
        intro h
        have hempty : path = "" := utf8_inj.mp h
        rw [hempty] at hdash
        cases hdash
      rw [hname] at hlength ⊢
      exact lookup_selfName hrelative hne hlength
    · rw [named, if_neg hdash]
  constructor
  · intro h
    exact ⟨hshort h, (hsame (hshort h)).symm.trans h⟩
  · rintro ⟨hlength, h⟩
    exact (hsame hlength).trans h

private theorem lookup_named_of_absolute {key : RawPath} (ha : Path.isAbsolute key)
    (h : Text.IsUtf8 key) (workspace : Location) :
    (files.within workspace).lookup (utf8 (Text.Shell.named (Text.lossyText key))) =
      files.lookup key := by
  obtain ⟨text, rfl⟩ := Text.isUtf8_iff.mp h
  obtain ⟨rest, hrest⟩ := String.startsWith_string_iff.mp (Path.isAbsolute_utf8_iff.mp ha)
  have hslash : text.toList.head? = some '/' := by
    rw [← hrest]
    rfl
  have hname : Text.Shell.named text = text := by
    rw [Text.Shell.named, if_neg (by simp [hslash])]
  rw [Text.lossyText_utf8, hname]
  exact lookup_within_of_absolute (of_decide_eq_true ha) workspace

namespace Run

variable {config : Config}

/-- The process that publishing starts: the key was found, and the process is given its path. -/
theorem isPush_of_mem_launches_publish
    (h : launch ∈ Journal.launches
      ((publish config (config.tools host)).outcome setting files).entries) :
    files.isFile (Credentials.keyPath setting.home config.sshKeyPath) = true ∧
      IsPush config setting files launch := by
  have hpublish : Follows Entry.launch? ((publish config (config.tools host)).outcome setting files)
      (_ ++ _) :=
    follows_publish passesEvents_launch? (Credentials.follows_ofKey config.sshKeyPath setting files)
      fun _ hvars => follows_push_of_credentials hvars
  rw [Journal.launches, hpublish.shown] at h
  cases hfile : files.isFile (Credentials.keyPath setting.home config.sshKeyPath) with
  | false =>
    rw [hfile] at h
    cases h
  | true =>
    rw [hfile] at h
    have hmem : launch ∈ Steps.shown
        [((publishCommand config setting).step host setting.environment files).mapFailure
          fun failure => RunFailure.publish (.tool failure)] := h
    rw [Steps.shown_singleton] at hmem
    exact ⟨rfl, isPush_of_launch rfl ((Command.runs_step host _ _ _).launch_of_mem_shows hmem)⟩

/-- The process that publishes connects with the key that was found, if its path is absolute and
UTF-8, and otherwise only if the path as it is displayed leads to the same file from the working
copy too, and is not too long with the `./` that comes before a dash. -/
theorem connects_with_checked_key_iff
    (hlaunch : launch ∈ Journal.launches
      ((publish config (config.tools host)).outcome setting files).entries)
    {workspace : Location}
    (hworkspace : Repository.workspace? files config.workingCopyPath = some workspace) :
    let key := Credentials.keyPath setting.home config.sshKeyPath
    let shown := Text.lossyText key
    launch.workspace? files = some workspace ∧
      ∃ found, files.lookup key = .ok found ∧ found.2.isFile = true ∧
        (launch.key? files = some found ↔
          Path.isAbsolute key ∧ Text.IsUtf8 key ∨
            (utf8 (Text.Shell.named shown)).length < pathLimit ∧
              (files.within workspace).lookup (utf8 shown) = .ok found) := by
  intro key shown
  obtain ⟨hfile, ⟨-, hargv, hdirectory, -⟩, hcommand⟩ := isPush_of_mem_launches_publish hlaunch
  have hmoves : launch.workspace? files = some workspace := by
    simp only [Launch.workspace?, hargv, hdirectory, if_true]
    exact hworkspace
  have hpath : launch.keyPath? = some (Text.Shell.named shown) := by
    rw [Launch.keyPath?, Credentials.variableName, hcommand, Option.bind_some]
    exact Credentials.identity?_connectCommand key
  obtain ⟨found, hfound, hregular⟩ := isFile_iff.mp hfile
  have hkey : launch.key? files =
      ((files.within workspace).lookup (utf8 (Text.Shell.named shown))).toOption := by
    rw [Launch.key?, hmoves, hpath, Option.bind_some, Option.bind_some]
  refine ⟨hmoves, found, hfound, hregular, ?_⟩
  rw [hkey, toOption_eq_some_iff]
  by_cases habsolute : Path.isAbsolute key = true ∧ Text.IsUtf8 key
  · refine iff_of_true ?_ (.inl habsolute)
    exact (lookup_named_of_absolute habsolute.1 habsolute.2 workspace).trans hfound
  · rw [Text.Shell.lookup_named_iff]
    exact (or_iff_right habsolute).symm

/-- A key in the home directory, which has an absolute path. -/
theorem connects_with_checked_key_in_home :
    let host : Host := fun _ => ⟨[], id, .exited 0⟩
    let config : Config :=
      { Config.builtIn with sshKeyPath := "~/key", listHomeBeforePush := false }
    let setting : Setting := ⟨some (utf8 "/home"), .empty, fun _ => 4096⟩
    let files : FileSystem := ⟨.directory [
      (utf8 "bin", .directory [(utf8 "git", .file ByteArray.empty true)]),
      (utf8 "home", .directory [(utf8 "key", .file ByteArray.empty false)]),
      (utf8 "work", .directory [(utf8 "locale", .directory [])])],
      [utf8 "work"]⟩
    let published := (publish config (config.tools host)).outcome setting files
    ∃ launch ∈ Journal.launches published.entries,
      Repository.workspace? files (utf8 "locale") = some (["work", "locale"].map utf8) ∧
      ∃ found, files.lookup (utf8 "/home/key") = .ok found ∧ launch.key? files = some found := by
  intro host config setting files published
  have hlaunches : Journal.launches published.entries =
      [⟨3, ["git", "-C", "locale", "push", config.deploymentRemote, "HEAD"].map utf8, [utf8 "work"],
        ⟨[("GIT_SSH_COMMAND", "ssh -i '/home/key' -o IdentitiesOnly=yes")]⟩⟩] := by
    decide +kernel
  have hmem := hlaunches ▸ List.mem_singleton_self _
  have hworkspace : Repository.workspace? files (utf8 "locale") =
      some (["work", "locale"].map utf8) := by
    decide +kernel
  obtain ⟨-, found, hfound, -, hkey⟩ := connects_with_checked_key_iff hmem hworkspace
  have hpath : Credentials.keyPath setting.home config.sshKeyPath = utf8 "/home/key" := by
    decide +kernel
  rw [hpath] at hfound hkey
  have habsolute : Path.isAbsolute (utf8 "/home/key") ∧ Text.IsUtf8 (utf8 "/home/key") := by
    decide +kernel
  exact ⟨_, hmem, hworkspace, found, hfound, hkey.mpr (.inl habsolute)⟩

/-- A relative path leads to one file where the key is looked for, and to another one in the working
copy, from where the process reads it. -/
theorem not_connects_with_checked_key_relative :
    let host : Host := fun _ => ⟨[], id, .exited 0⟩
    let config : Config := { Config.builtIn with sshKeyPath := "key", listHomeBeforePush := false }
    let setting : Setting := ⟨some (utf8 "/home"), .empty, fun _ => 4096⟩
    let files : FileSystem := ⟨.directory [
      (utf8 "bin", .directory [(utf8 "git", .file ByteArray.empty true)]),
      (utf8 "work", .directory [(utf8 "key", .file ByteArray.empty false),
        (utf8 "locale", .directory [
          (utf8 "key", .file ByteArray.empty false)])])],
      [utf8 "work"]⟩
    let published := (publish config (config.tools host)).outcome setting files
    ∃ launch ∈ Journal.launches published.entries,
      files.isFile (utf8 "key") = true ∧
      (files.lookup (utf8 "key")).toOption.map Prod.fst = some (["work", "key"].map utf8) ∧
      (launch.key? files).map Prod.fst = some (["work", "locale", "key"].map utf8) := by
  intro host config setting files published
  have hlaunches : Journal.launches published.entries =
      [⟨3, ["git", "-C", "locale", "push", config.deploymentRemote, "HEAD"].map utf8, [utf8 "work"],
        ⟨[("GIT_SSH_COMMAND", "ssh -i 'key' -o IdentitiesOnly=yes")]⟩⟩] := by
    decide +kernel
  refine ⟨_, hlaunches ▸ List.mem_singleton_self _, ?_, ?_, ?_⟩
  · decide +kernel
  · decide +kernel
  · decide +kernel

end Run

end LocaleRelay
