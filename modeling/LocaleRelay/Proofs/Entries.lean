import LocaleRelay.Action

/-!
# What actions add to the journal

An action that is put together from others adds what these add. So that all of its entries are of a
kind needs to be known of the single steps only, and the same holds of an entry that a success
leaves and of what leaves the files as they are.
-/

namespace LocaleRelay

open Files

variable {ε δ α β : Type} {kind : Entry → Prop}

/-! ### Entries of a kind -/

/-- An action whose entries are all of a kind. -/
def Act.Adds (kind : Entry → Prop) (act : Act α) : Prop :=
  ∀ setting files, ∀ entry ∈ (act.run setting files).entries, kind entry

namespace Act.Adds

/-- A result adds nothing. -/
theorem pure (a : α) : (Pure.pure a : Act α).Adds kind := by
  intro setting files entry hmem
  cases hmem

/-- Asking for the setting adds nothing. -/
theorem setting : Act.setting.Adds kind := by
  intro setting files entry hmem
  cases hmem

/-- Asking for the files adds nothing. -/
theorem files : Act.files.Adds kind := by
  intro setting files entry hmem
  cases hmem

/-- Other files are no entry. -/
theorem setFiles (after : FileSystem) : (Act.setFiles after).Adds kind := by
  intro setting files entry hmem
  cases hmem

/-- Entries that are recorded are those that are added. -/
theorem recordAll {entries : List Entry} (h : ∀ entry ∈ entries, kind entry) :
    (Act.recordAll entries).Adds kind := fun _ _ => h

/-- An entry that is recorded is the one that is added. -/
theorem record {entry : Entry} (h : kind entry) : (Act.record entry).Adds kind := by
  intro setting files other hmem
  rw [Act.run_record, List.mem_singleton] at hmem
  rw [hmem]
  exact h

/-- What is of a kind is of a wider one. -/
theorem mono {wider : Entry → Prop} {act : Act α} (h : act.Adds kind)
    (hk : ∀ entry, kind entry → wider entry) : act.Adds wider :=
  fun setting files entry hmem => hk entry (h setting files entry hmem)

/-- One action after another adds what the two add. -/
theorem bind {first : Act α} {next : α → Act β} (hf : first.Adds kind)
    (hn : ∀ a, (next a).Adds kind) : (first >>= next).Adds kind := by
  intro setting files entry hmem
  rcases List.mem_append.mp hmem with hmem | hmem
  · exact hf _ _ entry hmem
  · exact hn _ _ _ entry hmem

end Act.Adds

/-- An attempt whose entries are all of a kind. -/
def Attempt.Adds (kind : Entry → Prop) (attempt : Attempt ε α) : Prop :=
  ∀ setting files, ∀ entry ∈ (attempt.outcome setting files).entries, kind entry

namespace Attempt.Adds

/-- A result adds nothing. -/
theorem pure (a : α) : Adds kind (Pure.pure a : Attempt ε α) := by
  intro setting files entry hmem
  cases hmem

/-- What is of a kind is of a wider one. -/
theorem mono {wider : Entry → Prop} {attempt : Attempt ε α} (h : Adds kind attempt)
    (hk : ∀ entry, kind entry → wider entry) : Adds wider attempt :=
  fun setting files entry hmem => hk entry (h setting files entry hmem)

/-- A failure adds nothing. -/
theorem throw (failure : ε) : Adds kind (throw failure : Attempt ε α) := by
  intro setting files entry hmem
  cases hmem

/-- An action that cannot fail adds as an attempt what it adds. -/
theorem lift {act : Act α} (h : act.Adds kind) : Adds (ε := ε) kind (liftM act) := by
  intro setting files
  rw [outcome_lift]
  exact h setting files

/-- One attempt after another adds what the two add, as far as they are made. -/
theorem bind {first : Attempt ε α} {next : α → Attempt ε β} (hf : Adds kind first)
    (hn : ∀ a, Adds kind (next a)) : Adds kind (first >>= next) := by
  intro setting files entry hmem
  cases hv : (first.outcome setting files).value with
  | ok a =>
    rw [outcome_bind_ok hv] at hmem
    rcases List.mem_append.mp hmem with hmem | hmem
    · exact hf _ _ entry hmem
    · exact hn a _ _ entry hmem
  | error failure =>
    rw [outcome_bind_error hv] at hmem
    exact hf _ _ entry hmem

/-- An action that cannot fail, and then an attempt. -/
theorem bind_lift {act : Act α} {next : α → Attempt ε β} (ha : act.Adds kind)
    (hn : ∀ a, Adds kind (next a)) : Adds kind (liftM act >>= next : Attempt ε β) :=
  bind (lift ha) hn

/-- A failure told in other terms adds nothing. -/
theorem mapFailure {attempt : Attempt ε α} (f : ε → δ) (h : Adds kind attempt) :
    Adds kind (attempt.mapFailure f) := by
  intro setting files
  rw [outcome_mapFailure]
  exact h setting files

/-- A change of the files adds nothing. -/
theorem change (f : FileSystem → Except ε FileSystem) : Adds kind (Attempt.change f) := by
  refine bind_lift .files fun files => ?_
  split
  · exact lift (.setFiles _)
  · exact throw _

/-- Making directories adds nothing. -/
theorem makeAll (path : RawPath) (refuse : Fault → ε) :
    Adds kind (Attempt.makeAll path refuse) := by
  intro setting files entry hmem
  rw [outcome_makeAll] at hmem
  cases hmem

end Attempt.Adds

/-! ### Entries that a success has left -/

/-- An attempt that adds an entry wherever it goes well. -/
def Attempt.Notes (entry : Entry) (attempt : Attempt ε α) : Prop :=
  ∀ setting files a, (attempt.outcome setting files).value = .ok a →
    entry ∈ (attempt.outcome setting files).entries

namespace Attempt.Notes

variable {entry : Entry} {first : Attempt ε α} {next : α → Attempt ε β}

/-- What the first attempt adds is there after the second one. -/
theorem bind_left (h : Notes entry first) : Notes entry (first >>= next) := by
  intro setting files b hb
  obtain ⟨a, ha, -⟩ := value_bind_eq_ok hb
  rw [outcome_bind_ok ha]
  exact List.mem_append_left _ (h setting files a ha)

/-- What the second attempt adds is there after both. -/
theorem bind_right (h : ∀ a, Notes entry (next a)) : Notes entry (first >>= next) := by
  intro setting files b hb
  obtain ⟨a, ha, hnext⟩ := value_bind_eq_ok hb
  rw [outcome_bind_ok ha]
  exact List.mem_append_right _ (h a setting _ b hnext)

/-- An attempt adds the same, whatever its failure is told as. -/
theorem mapFailure (f : ε → δ) (h : Notes entry first) : Notes entry (first.mapFailure f) := by
  intro setting files a ha
  rw [outcome_mapFailure] at ha ⊢
  cases hv : (first.outcome setting files).value with
  | ok b => exact h setting files b hv
  | error failure =>
    rw [hv] at ha
    cases ha

end Attempt.Notes

/-! ### Files that are left alone -/

/-- An attempt that leaves the files as they are. -/
def Attempt.Keeps (attempt : Attempt ε α) : Prop :=
  ∀ setting files, (attempt.outcome setting files).files = files

namespace Attempt.Keeps

/-- A result leaves the files. -/
theorem pure (a : α) : Keeps (Pure.pure a : Attempt ε α) := fun _ _ => rfl

/-- An action that leaves the files leaves them as an attempt. -/
theorem lift {act : Act α} (h : ∀ setting files, (act.run setting files).files = files) :
    Keeps (ε := ε) (liftM act) := by
  intro setting files
  rw [outcome_lift]
  exact h setting files

/-- Attempts that leave the files leave them one after the other. -/
theorem bind {first : Attempt ε α} {next : α → Attempt ε β} (hf : Keeps first)
    (hn : ∀ a, Keeps (next a)) : Keeps (first >>= next) := by
  intro setting files
  cases hv : (first.outcome setting files).value with
  | ok a =>
    rw [outcome_bind_ok hv]
    exact (hn a _ _).trans (hf _ _)
  | error failure =>
    rw [outcome_bind_error hv]
    exact hf _ _

/-- A failure told in other terms leaves the files. -/
theorem mapFailure {attempt : Attempt ε α} (f : ε → δ) (h : Keeps attempt) :
    Keeps (attempt.mapFailure f) := by
  intro setting files
  rw [outcome_mapFailure]
  exact h setting files

end Attempt.Keeps

end LocaleRelay
