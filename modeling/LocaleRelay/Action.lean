import LocaleRelay.Journal.Entry

/-!
# Actions

What the program does, as a value: from a setting and the files, an action gives a result, the
files afterwards and the entries it adds to the journal. One action after another sees the files
that the first one left, and their entries follow each other. An attempt is an action that may
fail; a failure ends what follows it but keeps the files and the entries.
-/

namespace LocaleRelay

open Files

/-- What an action finds around it and does not change: the home directory of the user, if there is
one, the variables that the program was started with, and how long the system says that a directory
with some entries is. -/
structure Setting where
  home : Option RawPath
  environment : Environment
  directoryLength : List (Name × Node) → Nat

/-- What an action leaves behind: its result, the files afterwards and what it added to the
journal. -/
structure Outcome (α : Type) where
  value : α
  files : FileSystem
  entries : List Entry

/-- Something the program does, given by what it does in a setting to files. -/
@[ext] structure Act (α : Type) where
  run : Setting → FileSystem → Outcome α

namespace Act

variable {α β : Type}

/-- Do nothing and give a result. -/
def pure (a : α) : Act α := ⟨fun _ files => ⟨a, files, []⟩⟩

/-- Do one thing after another. -/
def bind (first : Act α) (next : α → Act β) : Act β :=
  ⟨fun setting files =>
    let before := first.run setting files
    let after := (next before.value).run setting before.files
    ⟨after.value, after.files, before.entries ++ after.entries⟩⟩

instance : Monad Act where
  pure := pure
  bind := bind

/-- Doing nothing leaves the files and adds no entry. -/
@[simp] theorem run_pure (a : α) (setting : Setting) (files : FileSystem) :
    (Pure.pure a : Act α).run setting files = ⟨a, files, []⟩ := rfl

/-- Of two actions the second one sees what the first one left. -/
@[simp] theorem run_bind (first : Act α) (next : α → Act β) (setting : Setting)
    (files : FileSystem) :
    (first >>= next).run setting files =
      let before := first.run setting files
      let after := (next before.value).run setting before.files
      ⟨after.value, after.files, before.entries ++ after.entries⟩ := rfl

/-- An action with its result changed. -/
@[simp] theorem run_map (f : α → β) (act : Act α) (setting : Setting) (files : FileSystem) :
    (f <$> act).run setting files =
      ⟨f (act.run setting files).value, (act.run setting files).files,
        (act.run setting files).entries⟩ := by
  show Outcome.mk _ _ _ = _
  simp [pure]

instance : LawfulMonad Act := LawfulMonad.mk' Act
  (by
    intro α act
    ext setting files
    simp)
  (by
    intro α β a next
    ext setting files
    simp)
  (by
    intro α β γ first second third
    ext setting files
    simp)

/-- The setting. -/
def setting : Act Setting := ⟨fun setting files => ⟨setting, files, []⟩⟩

/-- The files as they are now. -/
def files : Act FileSystem := ⟨fun _ files => ⟨files, files, []⟩⟩

/-- Put other files in place. -/
def setFiles (files : FileSystem) : Act Unit := ⟨fun _ _ => ⟨(), files, []⟩⟩

/-- Add an entry to the journal. -/
def record (entry : Entry) : Act Unit := ⟨fun _ files => ⟨(), files, [entry]⟩⟩

/-- Add entries to the journal. -/
def recordAll (entries : List Entry) : Act Unit := ⟨fun _ files => ⟨(), files, entries⟩⟩

/-- Log an event. -/
def log (level : Level) (source : Source) (message : String) (fields : List Field) : Act Unit :=
  record (.event { level, source, message, fields, span := none })

/-- Do something inside a span. -/
def within (span : Span) (act : Act α) : Act α :=
  ⟨fun setting files =>
    let outcome := act.run setting files
    { outcome with entries := outcome.entries.map (Entry.within span) }⟩

/-- Asking for the setting gives it. -/
@[simp] theorem run_setting (around : Setting) (before : FileSystem) :
    setting.run around before = ⟨around, before, []⟩ := rfl

/-- Asking for the files gives them. -/
@[simp] theorem run_files (around : Setting) (before : FileSystem) :
    files.run around before = ⟨before, before, []⟩ := rfl

/-- Other files replace those that were there. -/
@[simp] theorem run_setFiles (after : FileSystem) (around : Setting) (before : FileSystem) :
    (setFiles after).run around before = ⟨(), after, []⟩ := rfl

/-- A recorded entry is the only one. -/
@[simp] theorem run_record (entry : Entry) (around : Setting) (before : FileSystem) :
    (record entry).run around before = ⟨(), before, [entry]⟩ := rfl

/-- Recorded entries keep their order. -/
@[simp] theorem run_recordAll (entries : List Entry) (around : Setting) (before : FileSystem) :
    (recordAll entries).run around before = ⟨(), before, entries⟩ := rfl

/-- A logged event is the only entry. -/
@[simp] theorem run_log (level : Level) (source : Source) (message : String) (fields : List Field)
    (around : Setting) (before : FileSystem) :
    (log level source message fields).run around before =
      ⟨(), before, [.event { level, source, message, fields, span := none }]⟩ := rfl

/-- A span changes nothing but the entries. -/
@[simp] theorem run_within (span : Span) (act : Act α) (around : Setting) (before : FileSystem) :
    (within span act).run around before =
      let outcome := act.run around before
      ⟨outcome.value, outcome.files, outcome.entries.map (Entry.within span)⟩ := rfl

end Act

/-- An action that may fail. -/
abbrev Attempt (ε α : Type) := ExceptT ε Act α

namespace Attempt

variable {ε δ α : Type}

/-- An attempt with its failure told in other terms. -/
def mapFailure (f : ε → δ) (attempt : Attempt ε α) : Attempt δ α :=
  ExceptT.adapt f attempt

/-- Change the files in a way that may be refused. -/
def change (f : FileSystem → Except ε FileSystem) : Attempt ε Unit := do
  match f (← Act.files) with
  | .ok files => Act.setFiles files
  | .error failure => throw failure

/-- Make a directory and those above it that are missing. What was made before a refusal stays. -/
def makeAll (path : RawPath) (refuse : Fault → ε) : Attempt ε Unit := do
  let (files, made) := (← Act.files).makeAll path
  Act.setFiles files
  ExceptT.mk (return made.mapError refuse)

/-- What an attempt leaves behind. -/
def outcome (attempt : Attempt ε α) (setting : Setting) (files : FileSystem) :
    Outcome (Except ε α) := attempt.run.run setting files

/-- An attempt run as an action leaves what it leaves. -/
theorem run_run (attempt : Attempt ε α) (setting : Setting) (files : FileSystem) :
    Act.run (ExceptT.run attempt) setting files = attempt.outcome setting files := rfl

/-- An attempt that does nothing succeeds with its result. -/
@[simp] theorem outcome_pure (a : α) (setting : Setting) (files : FileSystem) :
    (pure a : Attempt ε α).outcome setting files = ⟨.ok a, files, []⟩ := rfl

/-- A failure leaves the files and adds no entry. -/
@[simp] theorem outcome_throw (failure : ε) (setting : Setting) (files : FileSystem) :
    (throw failure : Attempt ε α).outcome setting files = ⟨.error failure, files, []⟩ := rfl

/-- What follows a failure is not done; what follows a success sees what it left. -/
theorem outcome_bind {β : Type} (first : Attempt ε α) (next : α → Attempt ε β) (setting : Setting)
    (files : FileSystem) :
    (first >>= next).outcome setting files =
      let before := first.outcome setting files
      match before.value with
      | .ok a =>
        let after := (next a).outcome setting before.files
        ⟨after.value, after.files, before.entries ++ after.entries⟩
      | .error failure => ⟨.error failure, before.files, before.entries⟩ := by
  show Outcome.mk _ _ _ = _
  simp only [outcome]
  cases h : (first.run.run setting files).value with
  | ok a =>
    replace h : (Act.run first setting files).value = .ok a := h
    simp [ExceptT.bindCont, ExceptT.run, h]
  | error failure =>
    replace h : (Act.run first setting files).value = .error failure := h
    simp [ExceptT.bindCont, ExceptT.run, h]

/-- What follows a success sees what it left. -/
theorem outcome_bind_ok {β : Type} {first : Attempt ε α} {setting : Setting} {files : FileSystem}
    {a : α} (h : (first.outcome setting files).value = .ok a) (next : α → Attempt ε β) :
    (first >>= next).outcome setting files =
      ⟨((next a).outcome setting (first.outcome setting files).files).value,
        ((next a).outcome setting (first.outcome setting files).files).files,
        (first.outcome setting files).entries ++
          ((next a).outcome setting (first.outcome setting files).files).entries⟩ := by
  rw [outcome_bind]
  simp only [h]

/-- What follows a failure is not done. -/
theorem outcome_bind_error {β : Type} {first : Attempt ε α} {setting : Setting}
    {files : FileSystem} {e : ε} (h : (first.outcome setting files).value = .error e)
    (next : α → Attempt ε β) :
    (first >>= next).outcome setting files =
      ⟨.error e, (first.outcome setting files).files,
        (first.outcome setting files).entries⟩ := by
  rw [outcome_bind]
  simp only [h]

/-- One attempt after another gives a result only if both do. -/
theorem value_bind_eq_ok {β : Type} {first : Attempt ε α} {next : α → Attempt ε β}
    {setting : Setting} {files : FileSystem} {b : β}
    (h : ((first >>= next).outcome setting files).value = .ok b) :
    ∃ a, (first.outcome setting files).value = .ok a ∧
      ((next a).outcome setting (first.outcome setting files).files).value = .ok b := by
  cases hv : (first.outcome setting files).value with
  | ok a =>
    rw [outcome_bind_ok hv] at h
    exact ⟨a, rfl, h⟩
  | error failure =>
    rw [outcome_bind_error hv] at h
    cases h

/-- One attempt after another fails only if one of the two does. -/
theorem value_bind_eq_error {β : Type} {first : Attempt ε α} {next : α → Attempt ε β}
    {setting : Setting} {files : FileSystem} {e : ε}
    (h : ((first >>= next).outcome setting files).value = .error e) :
    (first.outcome setting files).value = .error e ∨
      ∃ a, (first.outcome setting files).value = .ok a ∧
        ((next a).outcome setting (first.outcome setting files).files).value = .error e := by
  cases hv : (first.outcome setting files).value with
  | ok a =>
    rw [outcome_bind_ok hv] at h
    exact .inr ⟨a, rfl, h⟩
  | error failure =>
    rw [outcome_bind_error hv] at h
    cases h
    exact .inl rfl

/-- The result of an attempt, and the files that it leaves. -/
def result (attempt : Attempt ε α) (setting : Setting) (files : FileSystem) :
    Except ε α × FileSystem :=
  ((attempt.outcome setting files).value, (attempt.outcome setting files).files)

/-- After a success the result is that of what follows. -/
theorem result_bind_ok {β : Type} {first : Attempt ε α} {setting : Setting}
    {files after : FileSystem} {a : α} (h : first.result setting files = (.ok a, after))
    (next : α → Attempt ε β) :
    (first >>= next).result setting files = (next a).result setting after := by
  obtain ⟨hvalue, rfl⟩ := Prod.ext_iff.mp h
  rw [result, outcome_bind_ok hvalue]
  rfl

/-- After a failure the result is that failure. -/
theorem result_bind_error {β : Type} {first : Attempt ε α} {setting : Setting}
    {files after : FileSystem} {failure : ε}
    (h : first.result setting files = (.error failure, after))
    (next : α → Attempt ε β) :
    (first >>= next).result setting files = (.error failure, after) := by
  obtain ⟨hvalue, rfl⟩ := Prod.ext_iff.mp h
  rw [result, outcome_bind_error hvalue]
  rfl

/-- An action that cannot fail, as an attempt. -/
@[simp] theorem outcome_lift (act : Act α) (setting : Setting) (files : FileSystem) :
    (liftM act : Attempt ε α).outcome setting files =
      ⟨.ok (act.run setting files).value, (act.run setting files).files,
        (act.run setting files).entries⟩ := by
  show (Except.ok <$> act : Act (Except ε α)).run setting files = _
  rw [Act.run_map]

/-- What follows an action that cannot fail sees what the action left. -/
theorem result_bind_lift {β : Type} (act : Act α) (next : α → Attempt ε β) (setting : Setting)
    (files : FileSystem) :
    (liftM act >>= next : Attempt ε β).result setting files =
      (next (act.run setting files).value).result setting (act.run setting files).files :=
  result_bind_ok (by rw [result, outcome_lift]) next

/-- An action that gives a result or a failure, as an attempt. -/
theorem outcome_mk (act : Act (Except ε α)) (setting : Setting) (files : FileSystem) :
    outcome (ExceptT.mk act) setting files = act.run setting files := rfl

/-- An attempt with its failure told in other terms does what it did. -/
@[simp] theorem outcome_mapFailure (f : ε → δ) (attempt : Attempt ε α) (setting : Setting)
    (files : FileSystem) :
    (attempt.mapFailure f).outcome setting files =
      ⟨(attempt.outcome setting files).value.mapError f, (attempt.outcome setting files).files,
        (attempt.outcome setting files).entries⟩ := by
  show (Except.mapError f <$> attempt.run).run setting files = _
  rw [Act.run_map]
  rfl

/-- A change that is refused leaves the files. -/
theorem outcome_change (f : FileSystem → Except ε FileSystem) (setting : Setting)
    (files : FileSystem) :
    (change f).outcome setting files =
      match f files with
      | .ok after => ⟨.ok (), after, []⟩
      | .error failure => ⟨.error failure, files, []⟩ := by
  rw [change, outcome_bind, outcome_lift]
  cases h : f files <;> simp [h]

/-- Making directories leaves what was made, refused or not. -/
theorem outcome_makeAll (path : RawPath) (refuse : Fault → ε) (setting : Setting)
    (files : FileSystem) :
    (makeAll path refuse).outcome setting files =
      ⟨(files.makeAll path).2.mapError refuse, (files.makeAll path).1, []⟩ := by
  rw [makeAll, outcome_bind, outcome_lift]
  simp [outcome_bind, outcome_mk]

end Attempt

end LocaleRelay
