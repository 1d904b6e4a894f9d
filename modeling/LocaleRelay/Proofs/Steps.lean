import LocaleRelay.Action
import Mathlib.Data.List.Forall2

/-!
# Attempts as rows of steps

Seen through one kind of journal entry, an attempt is a row of steps. Each step shows something and
may fail, and the first failure ends the row. What a row shows and how it fails then says which
requests a run makes or which processes it starts, in which order, and how it ends. What only logs
is idle: it leaves the files and is no step.
-/

namespace LocaleRelay

open Files

/-- What a step shows, and its failure if it fails. -/
structure Step (ε α : Type) where
  shows : List α
  failure : Option ε

namespace Step

variable {ε δ α : Type}

/-- The step with its failure told in other terms. -/
def mapFailure (f : ε → δ) (step : Step ε α) : Step δ α := ⟨step.shows, step.failure.map f⟩

/-- A step that shows one thing at most, and after which this is good unless the step fails. -/
structure Settles (good : α → Prop) (step : Step ε α) : Prop where
  single : step.shows.length ≤ 1
  good : step.failure = none → ∀ a ∈ step.shows, good a

end Step

/-- Things that fit an outline, one after the other, up to some point of it. -/
inductive Fits {α : Type} : List α → List (α → Prop) → Prop
  | nil {outline : List (α → Prop)} : Fits [] outline
  | cons {a : α} {p : α → Prop} {rest : List α} {outline : List (α → Prop)} (h : p a)
    (hr : Fits rest outline) : Fits (a :: rest) (p :: outline)

namespace Fits

variable {α : Type} {first second : List α} {outline more : List (α → Prop)}

/-- What fits an outline fits a longer one. -/
theorem append_right (h : Fits first outline) (more : List (α → Prop)) :
    Fits first (outline ++ more) := by
  induction h with
  | nil => exact .nil
  | cons ha _ ih => exact .cons ha ih

/-- What fits all of an outline can be followed by what fits another one. -/
theorem append (h : Fits first outline) (hl : first.length = outline.length)
    (hs : Fits second more) : Fits (first ++ second) (outline ++ more) := by
  induction h with
  | @nil outline =>
    rw [List.eq_nil_of_length_eq_zero hl.symm]
    exact hs
  | cons ha _ ih =>
    refine .cons ha (ih ?_)
    simp only [List.length_cons] at hl
    omega

/-- Where an outline tells a value of everything that fits it, the values are told in order. -/
theorem map_prefix {β : Type} {f : α → β} {values : List β} (h : Fits first outline)
    (hp : List.Forall₂ (fun p b => ∀ a, p a → f a = b) outline values) :
    first.map f <+: values := by
  induction h generalizing values with
  | nil => exact List.nil_prefix
  | cons ha _ ih =>
    cases hp with
    | cons hb hrest =>
      rw [List.map_cons, hb _ ha]
      exact List.cons_prefix_cons.mpr ⟨rfl, ih hrest⟩

/-- What fits an outline is not longer. -/
theorem length_le (h : Fits first outline) : first.length ≤ outline.length := by
  induction h with
  | nil => exact Nat.zero_le _
  | cons _ _ ih =>
    simp only [List.length_cons]
    omega

end Fits

/-- A step that shows the beginning of an outline, and all of it unless the step fails. -/
structure Step.Fills {ε α : Type} (step : Step ε α) (outline : List (α → Prop)) : Prop where
  fits : Fits step.shows outline
  complete : step.failure = none → step.shows.length = outline.length

/-- A step settles whatever its failure is told as. -/
theorem Step.Settles.mapFailure {ε δ α : Type} {step : Step ε α} {good : α → Prop}
    (h : step.Settles good) (f : ε → δ) : (step.mapFailure f).Settles good :=
  ⟨h.single, fun hn => h.good (Option.map_eq_none_iff.mp hn)⟩

/-- A step that shows nothing settles. -/
theorem Step.settles_nil {ε α : Type} (good : α → Prop) (failure : Option ε) :
    Step.Settles good ⟨[], failure⟩ := ⟨Nat.zero_le 1, fun _ _ h => by cases h⟩

/-- A step that shows nothing fills an empty outline. -/
theorem Step.fills_nil {ε α : Type} (failure : Option ε) :
    Step.Fills ⟨([] : List α), failure⟩ [] := ⟨.nil, fun _ => rfl⟩

namespace Steps

variable {ε δ α β : Type} {steps first second : List (Step ε α)}

/-- What a row shows: what its steps show, up to the first that fails. -/
def shown : List (Step ε α) → List α
  | [] => []
  | ⟨shows, none⟩ :: rest => shows ++ shown rest
  | ⟨shows, some _⟩ :: _ => shows

/-- The failure of a row: that of the first step that fails. -/
def failure? (steps : List (Step ε α)) : Option ε := steps.findSome? Step.failure

/-- A row without steps shows nothing. -/
@[simp] theorem shown_nil : shown ([] : List (Step ε α)) = [] := rfl

/-- After a step that does not fail a row shows what the rest of it shows. -/
@[simp] theorem shown_cons_none (shows : List α) (rest : List (Step ε α)) :
    shown (⟨shows, none⟩ :: rest) = shows ++ shown rest := rfl

/-- After a step that fails a row shows nothing more. -/
@[simp] theorem shown_cons_some (shows : List α) (failure : ε) (rest : List (Step ε α)) :
    shown (⟨shows, some failure⟩ :: rest) = shows := rfl

/-- A row without steps does not fail. -/
@[simp] theorem failure?_nil : failure? ([] : List (Step ε α)) = none := rfl

/-- After a step that does not fail a row fails as the rest of it does. -/
@[simp] theorem failure?_cons_none (shows : List α) (rest : List (Step ε α)) :
    failure? (⟨shows, none⟩ :: rest) = failure? rest := rfl

/-- A row fails as its first step if that fails. -/
@[simp] theorem failure?_cons_some (shows : List α) (failure : ε) (rest : List (Step ε α)) :
    failure? (⟨shows, some failure⟩ :: rest) = some failure := rfl

/-- A row of one step shows what the step shows. -/
theorem shown_singleton (step : Step ε α) : shown [step] = step.shows := by
  obtain ⟨shows, failure⟩ := step
  cases failure with
  | none => simp
  | some failure => rfl

/-- Of two rows in a row the second one is shown if the first one does not fail. -/
theorem shown_append : shown (first ++ second) =
    match failure? first with
    | none => shown first ++ shown second
    | some _ => shown first := by
  induction first with
  | nil => rfl
  | cons step rest ih =>
    obtain ⟨shows, failure⟩ := step
    cases failure with
    | some failure => rfl
    | none =>
      rw [List.cons_append, shown_cons_none, ih, failure?_cons_none]
      cases failure? rest with
      | none => simp
      | some failure => simp

/-- What the first of two rows shows is as much of the whole as it shows without failing. -/
theorem take_shown_append {count : Nat} (hle : (shown first).length ≤ count)
    (heq : failure? first = none → (shown first).length = count) :
    (shown (first ++ second)).take count = shown first := by
  rw [shown_append]
  cases h : failure? first with
  | none =>
    rw [← heq h]
    exact List.take_left
  | some failure => exact List.take_of_length_le hle

/-- The failure of two rows in a row is that of the first one if it fails. -/
theorem failure?_append : failure? (first ++ second) = (failure? first).or (failure? second) :=
  List.findSome?_append

/-- A row fails unless no step of it does. -/
theorem failure?_eq_none_iff : failure? steps = none ↔ ∀ step ∈ steps, step.failure = none :=
  List.findSome?_eq_none_iff

/-- A row that does not fail shows all of its steps, none of which fails. -/
theorem eq_of_failure?_eq_none (h : failure? steps = none) :
    shown steps = steps.flatMap Step.shows ∧ ∀ step ∈ steps, step.failure = none := by
  induction steps with
  | nil => simp
  | cons step rest ih =>
    obtain ⟨shows, failure⟩ := step
    cases failure with
    | some failure => cases h
    | none =>
      obtain ⟨hs, hn⟩ := ih h
      exact ⟨by simp [hs], by simpa using hn⟩

/-- A row that fails shows its steps up to the one with the failure. -/
theorem eq_of_failure?_eq_some {failure : ε} (h : failure? steps = some failure) :
    ∃ before step after, steps = before ++ step :: after ∧ failure? before = none ∧
      step.failure = some failure ∧ shown steps = shown before ++ step.shows := by
  induction steps with
  | nil => cases h
  | cons step rest ih =>
    obtain ⟨shows, failure'⟩ := step
    cases failure' with
    | some failure' =>
      cases h
      exact ⟨[], _, rest, rfl, rfl, rfl, rfl⟩
    | none =>
      obtain ⟨before, step, after, rfl, hb, hf, hs⟩ := ih h
      refine ⟨⟨shows, none⟩ :: before, step, after, rfl, hb, hf, ?_⟩
      rw [shown_cons_none, hs, shown_cons_none, List.append_assoc]

/-- What a row shows is the beginning of what its steps show. -/
theorem beginning_shown (steps : List (Step ε α)) : shown steps <+: steps.flatMap Step.shows := by
  cases h : failure? steps with
  | none =>
    have hall := (eq_of_failure?_eq_none h).1
    exact ⟨[], by rw [List.append_nil, hall]⟩
  | some failure =>
    obtain ⟨before, step, after, rfl, hb, -, hs⟩ := eq_of_failure?_eq_some h
    rw [hs, (eq_of_failure?_eq_none hb).1, List.flatMap_append, List.flatMap_cons]
    rw [← List.append_assoc]
    exact List.prefix_append _ _

/-- What only a later step shows is shown if and only if the steps before it do not fail. -/
theorem mem_shown_iff {a : α} {step : Step ε α} {before after : List (Step ε α)}
    (hb : a ∉ before.flatMap Step.shows) (hs : a ∈ step.shows) :
    a ∈ shown (before ++ step :: after) ↔ failure? before = none := by
  rw [shown_append]
  cases h : failure? before with
  | none =>
    have hmem : a ∈ shown (step :: after) := by
      obtain ⟨shows, failure⟩ := step
      cases failure with
      | none => exact List.mem_append_left _ hs
      | some failure => exact hs
    simp [hmem]
  | some failure =>
    have hnot : a ∉ shown before := fun hmem => hb ((beginning_shown before).subset hmem)
    simp [hnot]

/-- What a row shows fits the outline that its steps fill. -/
theorem fits_shown {outlines : List (List (α → Prop))}
    (h : List.Forall₂ Step.Fills steps outlines) : Fits (shown steps) outlines.flatten := by
  induction h with
  | nil => exact .nil
  | @cons step outline rest outlines hstep _ ih =>
    obtain ⟨shows, failure⟩ := step
    cases failure with
    | some failure => exact hstep.fits.append_right _
    | none => exact hstep.fits.append (hstep.complete rfl) ih

/-- A row that does not fail shows all of the outline. -/
theorem length_shown {outlines : List (List (α → Prop))}
    (h : List.Forall₂ Step.Fills steps outlines) (hn : failure? steps = none) :
    (shown steps).length = outlines.flatten.length := by
  induction h with
  | nil => rfl
  | @cons step outline rest outlines hstep _ ih =>
    obtain ⟨shows, failure⟩ := step
    cases failure with
    | some failure => cases hn
    | none =>
      have hlength : shows.length = outline.length := hstep.complete rfl
      rw [shown_cons_none, List.length_append, List.flatten_cons, List.length_append, ih hn,
        hlength]

/-- The first of two rows does not fail if more is shown than its outline has. -/
theorem failure?_eq_none_of_length_lt {outlines : List (List (α → Prop))}
    (h : List.Forall₂ Step.Fills first outlines)
    (hlt : outlines.flatten.length < (shown (first ++ second)).length) : failure? first = none := by
  have hle := (fits_shown h).length_le
  rw [shown_append] at hlt
  cases hf : failure? first with
  | none => rfl
  | some failure =>
    rw [hf] at hlt
    dsimp only at hlt
    omega

/-- All that a row of settling steps shows is good if the row does not fail. -/
theorem good_of_failure?_eq_none {good : α → Prop} (hs : ∀ step ∈ steps, step.Settles good)
    (h : failure? steps = none) : ∀ a ∈ shown steps, good a := by
  obtain ⟨hshown, hn⟩ := eq_of_failure?_eq_none h
  intro a ha
  rw [hshown, List.mem_flatMap] at ha
  obtain ⟨step, hmem, ha⟩ := ha
  exact (hs step hmem).good (hn step hmem) a ha

/-- Whatever a row of settling steps shows before something else is good. -/
theorem pairwise_shown {good : α → Prop} (hs : ∀ step ∈ steps, step.Settles good) :
    (shown steps).Pairwise fun earlier _ => good earlier := by
  induction steps with
  | nil => exact .nil
  | cons step rest ih =>
    obtain ⟨hstep, hrest⟩ := List.forall_mem_cons.mp hs
    obtain ⟨shows, failure⟩ := step
    have hself : shows.Pairwise fun earlier _ => good earlier :=
      match shows, hstep.single with
      | [], _ => .nil
      | [a], _ => List.pairwise_singleton _ a
    cases failure with
    | some failure => exact hself
    | none =>
      rw [shown_cons_none, List.pairwise_append]
      exact ⟨hself, ih hrest, fun a ha _ _ => hstep.good rfl a ha⟩

end Steps

/-- The failure in place of a result, if there is one. -/
def failureOf {ε α : Type} : Except ε α → Option ε
  | .ok _ => none
  | .error failure => some failure

/-- The failure of an outcome, if it is one. -/
def Outcome.failure? {ε α : Type} (outcome : Outcome (Except ε α)) : Option ε :=
  failureOf outcome.value

/-- There is no failure where there is a result. -/
theorem failureOf_eq_none_iff {ε α : Type} {result : Except ε α} :
    failureOf result = none ↔ ∃ a, result = .ok a := by
  cases result <;> simp [failureOf]

/-- A failure is what there is in place of a result. -/
theorem failureOf_eq_some_iff {ε α : Type} {result : Except ε α} {failure : ε} :
    failureOf result = some failure ↔ result = .error failure := by
  cases result <;> simp [failureOf]

/-- A failure in other terms comes from a failure. -/
theorem mapError_eq_error {ε δ α : Type} {f : ε → δ} {result : Except ε α} {failure : δ}
    (h : result.mapError f = .error failure) :
    ∃ reason, result = .error reason ∧ failure = f reason := by
  cases result with
  | ok a => cases h
  | error reason =>
    cases h
    exact ⟨reason, rfl, rfl⟩

/-- A result comes from the same result where failures are told in other terms. -/
theorem mapError_eq_ok {ε δ α : Type} {f : ε → δ} {result : Except ε α} {a : α}
    (h : result.mapError f = .ok a) : result = .ok a := by
  cases result with
  | ok a' =>
    cases h
    rfl
  | error reason => cases h

/-- An outcome that is a row of steps, seen through a kind of entry. -/
structure Follows {ε α β : Type} (view : Entry → Option α) (outcome : Outcome (Except ε β))
    (steps : List (Step ε α)) : Prop where
  shown : outcome.entries.filterMap view = Steps.shown steps
  failure : outcome.failure? = Steps.failure? steps

namespace Follows

variable {ε δ α β γ : Type} {view : Entry → Option α} {setting : Setting} {files : FileSystem}

/-- Every outcome is a step of its own. -/
theorem self (view : Entry → Option α) (outcome : Outcome (Except ε β)) :
    Follows view outcome [⟨outcome.entries.filterMap view, outcome.failure?⟩] := by
  cases h : outcome.failure? with
  | none => exact ⟨by simp, h⟩
  | some failure => exact ⟨rfl, h⟩

/-- A result that is given without doing anything is no step. -/
theorem pure (b : β) :
    Follows (ε := ε) view ((Pure.pure b : Attempt ε β).outcome setting files) [] :=
  ⟨rfl, rfl⟩

/-- An action that shows nothing is no step. -/
theorem silent {act : Act β} (h : (act.run setting files).entries.filterMap view = []) :
    Follows (ε := ε) view (Attempt.outcome (liftM act) setting files) [] := by
  rw [Attempt.outcome_lift]
  exact ⟨h, rfl⟩

/-- One attempt after another is one row after another. -/
theorem bind {first : Attempt ε β} {next : β → Attempt ε γ} {steps more : List (Step ε α)}
    (hf : Follows view (first.outcome setting files) steps)
    (hn : ∀ b, (first.outcome setting files).value = .ok b →
      Follows view ((next b).outcome setting (first.outcome setting files).files) more) :
    Follows view ((first >>= next).outcome setting files) (steps ++ more) := by
  cases hv : (first.outcome setting files).value with
  | ok b =>
    have hnext := hn b hv
    have hnone : Steps.failure? steps = none := by
      rw [← hf.failure, Outcome.failure?, hv]
      rfl
    rw [Attempt.outcome_bind_ok hv]
    constructor
    · rw [Steps.shown_append, hnone, List.filterMap_append, hf.shown, hnext.shown]
    · rw [Steps.failure?_append, hnone, Option.none_or]
      exact hnext.failure
  | error failure =>
    have hsome : Steps.failure? steps = some failure := by
      rw [← hf.failure, Outcome.failure?, hv]
      rfl
    rw [Attempt.outcome_bind_error hv]
    constructor
    · rw [Steps.shown_append, hsome]
      exact hf.shown
    · rw [Steps.failure?_append, hsome]
      rfl

/-- An action that shows nothing adds no step to what follows it. -/
theorem bind_silent {act : Act β} {next : β → Attempt ε γ} {steps : List (Step ε α)}
    (h : (act.run setting files).entries.filterMap view = [])
    (hn : Follows view ((next (act.run setting files).value).outcome setting
      (act.run setting files).files) steps) :
    Follows view (Attempt.outcome (liftM act >>= next) setting files) steps := by
  apply bind (silent h)
  intro b hb
  rw [Attempt.outcome_lift] at hb ⊢
  cases hb
  exact hn

/-- A step that shows nothing can be counted to the step before it. -/
theorem merge {outcome : Outcome (Except ε β)} {shows : List α} {first second : Option ε}
    {rest : List (Step ε α)} (h : Follows view outcome (⟨shows, first⟩ :: ⟨[], second⟩ :: rest)) :
    Follows view outcome (⟨shows, first.or second⟩ :: rest) := by
  refine ⟨h.shown.trans ?_, h.failure.trans ?_⟩
  · cases first with
    | some failure => rfl
    | none =>
      cases second with
      | some failure => simp
      | none => simp
  · cases first with
    | some failure => rfl
    | none => cases second <;> rfl

/-- A step that does nothing can be put before a row. -/
theorem cons_idle {outcome : Outcome (Except ε β)} {steps : List (Step ε α)}
    (h : Follows view outcome steps) : Follows view outcome (⟨[], none⟩ :: steps) :=
  ⟨h.shown, h.failure⟩

/-- A failure told in other terms is told so in every step. -/
theorem mapFailure {attempt : Attempt ε β} {steps : List (Step ε α)} (f : ε → δ)
    (h : Follows view (attempt.outcome setting files) steps) :
    Follows view ((attempt.mapFailure f).outcome setting files)
      (steps.map (Step.mapFailure f)) := by
  have hmap : ∀ steps : List (Step ε α),
      Steps.shown (steps.map (Step.mapFailure f)) = Steps.shown steps ∧
      Steps.failure? (steps.map (Step.mapFailure f)) = (Steps.failure? steps).map f := by
    intro steps
    induction steps with
    | nil => exact ⟨rfl, rfl⟩
    | cons step rest ih =>
      obtain ⟨shows, failure⟩ := step
      cases failure with
      | some failure => exact ⟨rfl, rfl⟩
      | none => exact ⟨congrArg (shows ++ ·) ih.1, ih.2⟩
  rw [Attempt.outcome_mapFailure]
  refine ⟨h.shown.trans (hmap steps).1.symm, ?_⟩
  rw [(hmap steps).2, ← h.failure, Outcome.failure?, Outcome.failure?]
  cases (attempt.outcome setting files).value <;> rfl

/-- What follows an attempt whose failure is told in other terms sees what the attempt left. -/
theorem bind_mapFailure {first : Attempt ε β} {next : β → Attempt δ γ} {steps : List (Step ε α)}
    {more : List (Step δ α)} (f : ε → δ) (hf : Follows view (first.outcome setting files) steps)
    (hn : ∀ b, (first.outcome setting files).value = .ok b →
      Follows view ((next b).outcome setting (first.outcome setting files).files) more) :
    Follows view ((first.mapFailure f >>= next).outcome setting files)
      (steps.map (Step.mapFailure f) ++ more) := by
  apply bind (hf.mapFailure f)
  intro b hb
  rw [Attempt.outcome_mapFailure] at hb ⊢
  exact hn b (mapError_eq_ok hb)

end Follows

/-- A view of the journal that passes over events. -/
def PassesEvents {α : Type} (view : Entry → Option α) : Prop := ∀ event, view (.event event) = none

namespace PassesEvents

variable {α β ε : Type} {view : Entry → Option α} {setting : Setting} {files : FileSystem}

/-- A span is not seen where events are not. -/
theorem filterMap_within (hv : PassesEvents view) (span : Span) (entries : List Entry) :
    (entries.map (Entry.within span)).filterMap view = entries.filterMap view := by
  rw [List.filterMap_map]
  congr 1
  ext1 entry
  cases entry with
  | event event => exact (hv _).trans (hv _).symm
  | request request => rfl
  | launch launch => rfl
  | terminal stream bytes => rfl

/-- Entries that are all events are not seen. -/
theorem filterMap_events (hv : PassesEvents view) {entries : List Entry}
    (he : ∀ entry ∈ entries, ∃ event, entry = .event event) : entries.filterMap view = [] := by
  rw [List.filterMap_eq_nil_iff]
  intro entry hmem
  obtain ⟨event, rfl⟩ := he entry hmem
  exact hv event

/-- Logging adds no step to what follows it. -/
theorem bind_log (hv : PassesEvents view) {level : Level} {source : Source} {message : String}
    {fields : List Field} {next : Unit → Attempt ε β} {steps : List (Step ε α)}
    (h : Follows view ((next ()).outcome setting files) steps) :
    Follows view (Attempt.outcome (liftM (Act.log level source message fields) >>= next) setting
      files) steps :=
  .bind_silent (by rw [Act.run_log, List.filterMap_cons, hv, List.filterMap_nil]) h

end PassesEvents

/-- The requests of a journal pass over its events. -/
theorem passesEvents_request? : PassesEvents Entry.request? := fun _ => rfl

/-- The processes of a journal pass over its events. -/
theorem passesEvents_launch? : PassesEvents Entry.launch? := fun _ => rfl

/-! ### Idle actions -/

/-- An action that leaves the files as they are and adds nothing but events. -/
def Act.Idle {α : Type} (act : Act α) : Prop :=
  ∀ setting files, (act.run setting files).files = files ∧
    ∀ entry ∈ (act.run setting files).entries, ∃ event, entry = .event event

namespace Act.Idle

variable {α β : Type}

/-- A result is idle. -/
theorem pure (a : α) : (Pure.pure a : Act α).Idle := fun _ _ => ⟨rfl, by simp⟩

/-- Logging is idle. -/
theorem log (level : Level) (source : Source) (message : String) (fields : List Field) :
    (Act.log level source message fields).Idle := fun _ _ => ⟨rfl, by simp⟩

/-- Asking for the setting is idle. -/
theorem setting : Act.setting.Idle := fun _ _ => ⟨rfl, by simp⟩

/-- Asking for the files is idle. -/
theorem files : Act.files.Idle := fun _ _ => ⟨rfl, by simp⟩

/-- Idle actions are idle one after the other. -/
theorem bind {first : Act α} {next : α → Act β} (hf : first.Idle) (hn : ∀ a, (next a).Idle) :
    (first >>= next).Idle := by
  intro setting files
  obtain ⟨hfiles, hevents⟩ := hf setting files
  obtain ⟨hfiles', hevents'⟩ := hn (first.run setting files).value setting
    (first.run setting files).files
  rw [Act.run_bind]
  refine ⟨hfiles'.trans hfiles, fun entry hmem => ?_⟩
  rcases List.mem_append.mp hmem with hmem | hmem
  · exact hevents entry hmem
  · exact hevents' entry hmem

end Act.Idle

/-- An attempt that leaves the files as they are and adds nothing but events. -/
def Attempt.Idle {ε α : Type} (attempt : Attempt ε α) : Prop := Act.Idle (ExceptT.run attempt)

namespace Attempt.Idle

variable {ε α β : Type}

/-- An idle action is an idle attempt. -/
theorem lift {act : Act α} (h : act.Idle) : Idle (ε := ε) (liftM act) := by
  intro setting files
  rw [Attempt.run_run, Attempt.outcome_lift]
  exact h setting files

/-- A failure is idle. -/
theorem throw (failure : ε) : Idle (throw failure : Attempt ε α) :=
  Act.Idle.pure (Except.error failure)

/-- A result is idle. -/
theorem pure (a : α) : Idle (Pure.pure a : Attempt ε α) := Act.Idle.pure (Except.ok a)

/-- Idle attempts are idle one after the other. -/
theorem bind {first : Attempt ε α} {next : α → Attempt ε β} (hf : Idle first)
    (hn : ∀ a, Idle (next a)) : Idle (first >>= next) := by
  refine Act.Idle.bind hf fun result => ?_
  cases result with
  | ok a => exact hn a
  | error failure => exact Act.Idle.pure _

end Attempt.Idle

end LocaleRelay
