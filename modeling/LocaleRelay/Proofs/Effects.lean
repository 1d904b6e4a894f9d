import LocaleRelay.Proofs.Steps

/-!
# Effects

The effect of an action is what is left of its outcome without the log: the result, the files and
the processes that were started. Effects follow each other as the actions do, and what only logs has
none besides its result.
-/

namespace LocaleRelay

open Files

/-- What an outcome is without its log: the result, the files and the processes. -/
def Outcome.effect {α : Type} (outcome : Outcome α) : α × FileSystem × List Launch :=
  (outcome.value, outcome.files, Journal.launches outcome.entries)

/-- An effect is known by its parts. -/
theorem Outcome.effect_eq_iff {α : Type} {outcome : Outcome α} {a : α} {after : FileSystem}
    {started : List Launch} : outcome.effect = (a, after, started) ↔
      outcome.value = a ∧ outcome.files = after ∧ Journal.launches outcome.entries = started := by
  rw [effect, Prod.mk.injEq, Prod.mk.injEq]

section

variable {α β ε δ : Type} {setting : Setting} {files after last : FileSystem}
  {started more : List Launch}

/-- The effects of two actions, one after the other. -/
theorem Act.effect_bind {first : Act α} {next : α → Act β} {a : α} {b : β}
    (hf : (first.run setting files).effect = (a, after, started))
    (hn : ((next a).run setting after).effect = (b, last, more)) :
    ((first >>= next).run setting files).effect = (b, last, started ++ more) := by
  cases hf
  cases hn
  rw [Act.run_bind, Outcome.effect, Journal.launches_append]

/-- The effects of two attempts, one after the other. -/
theorem Attempt.effect_bind_ok {first : Attempt ε α} {next : α → Attempt ε β} {a : α}
    {result : Except ε β} (hf : (first.outcome setting files).effect = (.ok a, after, started))
    (hn : ((next a).outcome setting after).effect = (result, last, more)) :
    ((first >>= next).outcome setting files).effect = (result, last, started ++ more) := by
  obtain ⟨hvalue, hrest⟩ := Prod.ext_iff.mp hf
  cases hrest
  cases hn
  rw [outcome_bind_ok hvalue, Outcome.effect, Journal.launches_append]

/-- After an attempt that fails there is no effect. -/
theorem Attempt.effect_bind_error {first : Attempt ε α} {next : α → Attempt ε β} {failure : ε}
    (hf : (first.outcome setting files).effect = (.error failure, after, started)) :
    ((first >>= next).outcome setting files).effect = (.error failure, after, started) := by
  obtain ⟨hvalue, hrest⟩ := Prod.ext_iff.mp hf
  cases hrest
  rw [outcome_bind_error hvalue]
  rfl

/-- The effect of an action as an attempt. -/
theorem Attempt.effect_lift {act : Act α} {a : α}
    (h : (act.run setting files).effect = (a, after, started)) :
    ((liftM act : Attempt ε α).outcome setting files).effect = (.ok a, after, started) := by
  cases h
  rw [outcome_lift]
  rfl

/-- The effect of an attempt with its failure told in other terms. -/
theorem Attempt.effect_mapFailure {attempt : Attempt ε α} {result : Except ε α} (f : ε → δ)
    (h : (attempt.outcome setting files).effect = (result, after, started)) :
    ((attempt.mapFailure f).outcome setting files).effect =
      (result.mapError f, after, started) := by
  cases h
  rw [outcome_mapFailure]
  rfl

/-- What is idle gives a result and has no other effect. -/
theorem Act.Idle.effect_run {act : Act α} (h : act.Idle) :
    (act.run setting files).effect = ((act.run setting files).value, files, []) := by
  obtain ⟨hfiles, hevents⟩ := h setting files
  have hnone : Journal.launches (act.run setting files).entries = [] :=
    passesEvents_launch?.filterMap_events hevents
  rw [Outcome.effect, hfiles, hnone]

/-- An idle attempt gives a result or fails and has no other effect. -/
theorem Attempt.Idle.effect_outcome {attempt : Attempt ε α} (h : attempt.Idle) :
    (attempt.outcome setting files).effect = ((attempt.outcome setting files).value, files, []) :=
  Act.Idle.effect_run h

/-- After what is idle the effect is that of what follows. -/
theorem Attempt.effect_bind_idle {act : Act α} {next : α → Attempt ε β} (h : act.Idle) :
    (Attempt.outcome (liftM act >>= next) setting files).effect =
      ((next (act.run setting files).value).outcome setting files).effect :=
  Attempt.effect_bind_ok (Attempt.effect_lift h.effect_run) rfl

end

end LocaleRelay
