import LocaleRelay.Proofs.KeyPath
import LocaleRelay.Proofs.Repository

/-!
# The words of the command that connects

A shell splits the command that connects into words. Unquoted blanks separate them, single quotes
make what is between them literal, and so does an unquoted backslash with the character after it.
A reader goes through the command one character at a time, and keeps for each character of a word
whether it is literal. Read like this, the path of a key is one word with no character of it left to
the shell.
-/

namespace LocaleRelay

open Files

namespace Text.Shell

/-! ### Reading words -/

/-- A character of a word, and whether it stands for itself, whatever it means to a shell
elsewhere. -/
structure Letter where
  char : Char
  literal : Bool
  deriving Repr, DecidableEq

/-- A word that is neither quoted nor escaped. -/
def bare (word : String) : List Letter := word.toList.map (⟨·, false⟩)

/-- A word of which every character stands for itself. -/
def literally (word : String) : List Letter := word.toList.map (⟨·, true⟩)

/-- How the next character is read: after an opening single quote, after an unquoted backslash, or
as it is. -/
inductive Context where
  | plain
  | quoted
  | escaped
  deriving Repr, DecidableEq

/-- How far a command is read: how the next character is read, the words that have ended, and the
word that has begun, if one has. -/
structure Reader where
  context : Context
  ended : List (List Letter)
  begun : Option (List Letter)
  deriving Repr, DecidableEq

/-- Whether a character separates words. -/
def isBlank (c : Char) : Bool := c == ' ' || c == '\t'

/-- Whether a character is part of a word as it is. -/
def isOrdinary (c : Char) : Bool := !(isBlank c || c == '\'' || c == '\\')

namespace Reader

/-- Before the first character. -/
def start : Reader := ⟨.plain, [], none⟩

/-- The word that has begun, or an empty one. -/
def word (reader : Reader) : List Letter := reader.begun.getD []

/-- Read one character. A quote begins a word even if nothing is in it. -/
def read (reader : Reader) (c : Char) : Reader :=
  match reader.context with
  | .plain =>
    if isBlank c then ⟨.plain, reader.ended ++ reader.begun.toList, none⟩
    else if c == '\'' then ⟨.quoted, reader.ended, some reader.word⟩
    else if c == '\\' then ⟨.escaped, reader.ended, some reader.word⟩
    else ⟨.plain, reader.ended, some (reader.word ++ [⟨c, false⟩])⟩
  | .quoted =>
    if c == '\'' then ⟨.plain, reader.ended, some reader.word⟩
    else ⟨.quoted, reader.ended, some (reader.word ++ [⟨c, true⟩])⟩
  | .escaped => ⟨.plain, reader.ended, some (reader.word ++ [⟨c, true⟩])⟩

/-- The words at the end of a command. There are none if a quote is not closed or a backslash has
nothing after it. -/
def words? (reader : Reader) : Option (List (List Letter)) :=
  match reader.context with
  | .plain => some (reader.ended ++ reader.begun.toList)
  | .quoted | .escaped => none

end Reader

/-- The words of a command. -/
def words? (cs : List Char) : Option (List (List Letter)) := (cs.foldl Reader.read .start).words?

/-! ### Reading a path back -/

variable {ended : List (List Letter)} {word : List Letter}

/-- A blank ends a word. -/
theorem read_blank : Reader.read ⟨.plain, ended, some word⟩ ' ' = ⟨.plain, ended ++ [word], none⟩ :=
  rfl

/-- An ordinary character goes into the word as it is, and begins one if there is none. -/
theorem read_ordinary {c : Char} (h : isOrdinary c) (begun : Option (List Letter)) :
    Reader.read ⟨.plain, ended, begun⟩ c =
      ⟨.plain, ended, some (begun.getD [] ++ [⟨c, false⟩])⟩ := by
  simp only [isOrdinary, Bool.not_eq_true', Bool.or_eq_false_iff] at h
  simp [Reader.read, Reader.word, h]

/-- Ordinary characters go into a word one after the other. -/
theorem foldl_ordinary {cs : List Char} (h : ∀ c ∈ cs, isOrdinary c) :
    cs.foldl Reader.read ⟨.plain, ended, some word⟩ =
      ⟨.plain, ended, some (word ++ cs.map (⟨·, false⟩))⟩ := by
  induction cs generalizing word with
  | nil => simp
  | cons c cs ih =>
    obtain ⟨hc, hcs⟩ := List.forall_mem_cons.mp h
    rw [List.foldl_cons, read_ordinary hc, ih hcs]
    simp

/-- A text of ordinary characters is read as a bare word. -/
theorem foldl_bare {text : String} (hne : text.toList ≠ []) (h : text.toList.all isOrdinary) :
    text.toList.foldl Reader.read ⟨.plain, ended, none⟩ = ⟨.plain, ended, some (bare text)⟩ := by
  rw [bare]
  cases htext : text.toList with
  | nil => exact absurd htext hne
  | cons c cs =>
    rw [htext, List.all_eq_true] at h
    obtain ⟨hc, hcs⟩ := List.forall_mem_cons.mp h
    rw [List.foldl_cons, read_ordinary hc, foldl_ordinary hcs]
    rfl

/-- A bare word ends at a blank. -/
theorem foldl_bare_blank {text : String} (hne : text.toList ≠ []) (h : text.toList.all isOrdinary)
    (rest : List Char) :
    (text.toList ++ ' ' :: rest).foldl Reader.read ⟨.plain, ended, none⟩ =
      rest.foldl Reader.read ⟨.plain, ended ++ [bare text], none⟩ := by
  rw [List.foldl_append, foldl_bare hne h, List.foldl_cons, read_blank]

/-- What stands for a character between quotes adds the character, as a literal one, and leaves the
quotes open. -/
theorem foldl_quoteChar (c : Char) :
    (quoteChar c).foldl Reader.read ⟨.quoted, ended, some word⟩ =
      ⟨.quoted, ended, some (word ++ [⟨c, true⟩])⟩ := by
  rw [quoteChar]
  by_cases h : c = '\''
  · subst h
    rfl
  · simp [h, Reader.read, Reader.word]

/-- What stands for a text between quotes adds the text, all of it literal. -/
theorem foldl_flatMap_quoteChar (cs : List Char) :
    (cs.flatMap quoteChar).foldl Reader.read ⟨.quoted, ended, some word⟩ =
      ⟨.quoted, ended, some (word ++ cs.map (⟨·, true⟩))⟩ := by
  -- The word so far is left open: each character is added to what those before it made of it.
  induction cs generalizing word with
  | nil => simp
  | cons c cs ih =>
    rw [List.flatMap_cons, List.foldl_append, foldl_quoteChar, ih, List.append_assoc]
    rfl

/-- A text looks like an option if it begins with a dash. -/
theorem looksLikeOption_iff {cs : List Char} : looksLikeOption cs ↔ cs.head? = some '-' := by
  unfold looksLikeOption
  split
  · simp
  · next h =>
    cases cs with
    | nil => simp
    | cons c rest => simpa using fun e : c = '-' => h rest (e ▸ rfl)

/-- The name of a path that no program takes for an option: `./` comes before a dash at the
beginning. -/
def named (path : String) : String :=
  if path.toList.head? = some '-' then "./" ++ path else path

/-- A path is guarded by being named. -/
theorem guardOption_toList (path : String) : guardOption path.toList = (named path).toList := by
  rw [guardOption, named]
  by_cases h : path.toList.head? = some '-'
  · rw [if_pos h, if_pos (looksLikeOption_iff.mpr h), String.toList_append]
    rfl
  · rw [if_neg h, if_neg (mt looksLikeOption_iff.mp h)]

/-- No name begins with a dash. -/
theorem head?_named (path : String) : (named path).toList.head? ≠ some '-' := by
  rw [named]
  split
  · simp
  · assumption

/-- Paths with the same name are equal, up to a `./` before one of them. -/
theorem eq_of_named_eq {path other : String} (h : named path = named other) :
    path = other ∨ path = "./" ++ other ∨ other = "./" ++ path := by
  rw [named, named] at h
  split at h
  · split at h
    · exact .inl (String.append_right_inj "./" |>.mp h)
    · exact .inr (.inr h.symm)
  · split at h
    · exact .inr (.inl h)
    · exact .inl h

/-- A text in which every character stands for itself is known from its characters. -/
theorem literally_inj {first second : String} :
    literally first = literally second ↔ first = second := by
  rw [literally, literally, List.map_inj_right (by simp), String.toList_inj]

/-- A path as a word adds a word in which every character of its name stands for itself. -/
theorem foldl_quotePath (path : String) :
    (quotePath path.toList).foldl Reader.read ⟨.plain, ended, none⟩ =
      ⟨.plain, ended, some (literally (named path))⟩ := by
  have hopen : Reader.read ⟨.plain, ended, none⟩ '\'' = ⟨.quoted, ended, some []⟩ := rfl
  have hclose : Reader.read ⟨.quoted, ended, some (literally (named path))⟩ '\'' =
      ⟨.plain, ended, some (literally (named path))⟩ := rfl
  rw [quotePath, List.cons_append, List.foldl_cons, hopen, List.foldl_append,
    foldl_flatMap_quoteChar, guardOption_toList, List.nil_append]
  exact hclose

end Text.Shell

namespace Credentials

open Text Text.Shell Path

/-- The command that connects with a key, word by word. -/
theorem toList_connectCommand (key : RawPath) :
    (connectCommand key).toList = "ssh".toList ++ ' ' :: ("-i".toList ++ ' ' ::
      (quotePath (lossyText key).toList ++ ' ' :: ("-o".toList ++ ' ' ::
        "IdentitiesOnly=yes".toList))) := by
  simp [connectCommand]

/-- The command that connects with a key has five words, and the third one is the name of the key as
it is displayed, all of it literal. -/
theorem words?_connectCommand (key : RawPath) :
    words? (connectCommand key).toList = some [bare "ssh", bare "-i",
      literally (named (lossyText key)), bare "-o", bare "IdentitiesOnly=yes"] := by
  -- Outside the quoted path every character is ordinary, and single blanks stand between the words.
  rw [words?, toList_connectCommand, Reader.start, foldl_bare_blank (by decide) (by decide),
    foldl_bare_blank (by decide) (by decide), List.foldl_append, foldl_quotePath, List.foldl_cons,
    read_blank, foldl_bare_blank (by decide) (by decide), foldl_bare (by decide) (by decide)]
  rfl

/-- Commands that connect are equal only for keys that are displayed alike, up to a `./` before one
of them. -/
theorem displayed_of_connectCommand_eq {key other : RawPath}
    (h : connectCommand key = connectCommand other) :
    lossyText key = lossyText other ∨ lossyText key = "./" ++ lossyText other ∨
      lossyText other = "./" ++ lossyText key := by
  have hwords := words?_connectCommand key
  rw [h, words?_connectCommand other] at hwords
  simp only [Option.some.injEq, List.cons.injEq, true_and, and_true, literally_inj] at hwords
  exact eq_of_named_eq hwords.symm

/-- For keys with a path in UTF-8 that makes their paths equal, up to a `./` before one of them. -/
theorem eq_of_connectCommand_eq {key other : RawPath} (hkey : IsUtf8 key) (hother : IsUtf8 other)
    (h : connectCommand key = connectCommand other) :
    key = other ∨ key = utf8 "./" ++ other ∨ other = utf8 "./" ++ key := by
  obtain ⟨text, rfl⟩ := isUtf8_iff.mp hkey
  obtain ⟨otherText, rfl⟩ := isUtf8_iff.mp hother
  have hdisplayed := displayed_of_connectCommand_eq h
  rwa [lossyText_utf8, lossyText_utf8, ← utf8_inj, ← utf8_inj, ← utf8_inj, utf8_append,
    utf8_append] at hdisplayed

/-- In a home directory with a path in UTF-8 the path of every key is UTF-8. -/
theorem isUtf8_keyPath {home : Option RawPath} (h : ∀ path ∈ home, IsUtf8 path) (path : String) :
    IsUtf8 (keyPath home path) := by
  unfold keyPath
  split
  · cases home with
    | none => exact isUtf8_utf8 ""
    | some home => exact h home rfl
  · split
    · next home => exact isUtf8_join (h home rfl) (isUtf8_utf8 _)
    · exact isUtf8_utf8 path
  · exact isUtf8_utf8 path

/-- Finding a key that is there gives the variables for it. -/
theorem eq_vars_of_ofKey_eq_ok {path : String} {setting : Setting} {files : FileSystem}
    {vars : Variables} (h : ((ofKey path).outcome setting files).value = .ok vars) :
    vars = Credentials.vars (keyPath setting.home path) := by
  obtain ⟨entries, -, hkey⟩ := outcome_ofKey path setting files
  rw [hkey] at h
  split at h
  · exact (Except.ok.inj h).symm
  · cases h

/-- Where the key is found, a single variable is set, to a command of five words. The path of the
key as it is displayed is the third word, which is no option, and no character of it is left to a
shell. Only keys that are displayed alike give the same command, up to a `./` before one of the two;
with home directories whose paths are UTF-8 they have the same path, up to that. -/
theorem words_ofKey {path : String} {setting : Setting} {files : FileSystem} {vars : Variables}
    (h : ((ofKey path).outcome setting files).value = .ok vars) :
    let key := keyPath setting.home path
    ∃ command, vars.pairs = [("GIT_SSH_COMMAND", command)] ∧
      words? command.toList = some [bare "ssh", bare "-i", literally (named (lossyText key)),
        bare "-o", bare "IdentitiesOnly=yes"] ∧
      (named (lossyText key)).toList.head? ≠ some '-' ∧
      ∀ {otherPath : String} {otherSetting : Setting} {otherFiles : FileSystem},
        ((ofKey otherPath).outcome otherSetting otherFiles).value = .ok vars →
        let other := keyPath otherSetting.home otherPath
        (lossyText key = lossyText other ∨ lossyText key = "./" ++ lossyText other ∨
          lossyText other = "./" ++ lossyText key) ∧
        ((∀ home ∈ setting.home, IsUtf8 home) → (∀ home ∈ otherSetting.home, IsUtf8 home) →
          key = other ∨ key = utf8 "./" ++ other ∨ other = utf8 "./" ++ key) := by
  intro key
  have hvars : vars = Credentials.vars key := eq_vars_of_ofKey_eq_ok h
  subst hvars
  refine ⟨connectCommand key, rfl, words?_connectCommand key, head?_named _, ?_⟩
  intro otherPath otherSetting otherFiles hother other
  have hsame : connectCommand key = connectCommand other := by
    simpa [Credentials.vars] using eq_vars_of_ofKey_eq_ok hother
  refine ⟨displayed_of_connectCommand_eq hsame, fun hhome hotherHome => ?_⟩
  exact eq_of_connectCommand_eq (isUtf8_keyPath hhome path) (isUtf8_keyPath hotherHome otherPath)
    hsame

/-- A key in the home directory whose path has quotes, blanks and more that means something to a
shell. -/
theorem words_ofKey_hostile :
    let setting : Setting := ⟨some (utf8 "-it's a home"), ⟨[]⟩, fun _ => 4096⟩
    let files : FileSystem := ⟨.directory [(utf8 "-it's a home", .directory
      [(utf8 "'`key`;\n$HOME\\'", .file ByteArray.empty false)])], []⟩
    ∃ vars, ((ofKey "~/'`key`;\n$HOME\\'").outcome setting files).value = .ok vars ∧
      ∃ command, vars.pairs = [("GIT_SSH_COMMAND", command)] ∧
        words? command.toList = some [bare "ssh", bare "-i",
          literally "./-it's a home/'`key`;\n$HOME\\'", bare "-o", bare "IdentitiesOnly=yes"] := by
  intro setting files
  have hvars : ((ofKey "~/'`key`;\n$HOME\\'").outcome setting files).value =
      .ok (Credentials.vars (utf8 "-it's a home/'`key`;\n$HOME\\'")) := by decide +kernel
  obtain ⟨command, hpairs, hwords, -⟩ := words_ofKey hvars
  have hnamed : named (lossyText (keyPath setting.home "~/'`key`;\n$HOME\\'")) =
      "./-it's a home/'`key`;\n$HOME\\'" := by decide +kernel
  rw [hnamed] at hwords
  exact ⟨_, hvars, command, hpairs, hwords⟩

end Credentials

end LocaleRelay
