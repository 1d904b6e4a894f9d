import LocaleRelay.Proofs.Pipeline.Independence

/-!
# Alike apart from a listing

Two attempts, each in a setting of its own, are alike if from the same files they give the same
result, leave the same files, put the same questions to tools and log the same events, those of a
listing of the home directory apart. Attempts that are put together from alike ones are alike, and
so are attempts one of which lists the home directory before it does what the other one does.
-/

namespace LocaleRelay

open Files

/-! ### Journals without a listing -/

/-- An event of a listing. -/
def Entry.IsListing (entry : Entry) : Prop :=
  ∃ event, entry = .event event ∧ event.source = .listing

/-- Only a request is one. -/
theorem Entry.request?_eq_some_iff {entry : Entry} {request : Request} :
    entry.request? = some request ↔ entry = .request request := by
  cases entry <;> simp [Entry.request?]

/-- Inside a span an entry is of a listing or not, as it was. -/
theorem Entry.isListing_within (span : Span) (entry : Entry) :
    (entry.within span).IsListing ↔ entry.IsListing := by
  cases entry <;> simp [Entry.IsListing, Entry.within]

/-- The events of a journal that are not of a listing, in order. -/
def Journal.unlisted (entries : List Entry) : List Event :=
  (events entries).filter fun event => event.source ≠ .listing

namespace Journal

/-- The events of two journals in a row, without those of a listing. -/
theorem unlisted_append (first second : List Entry) :
    unlisted (first ++ second) = unlisted first ++ unlisted second := by
  rw [unlisted, events_append, List.filter_append]
  rfl

/-- The events after an entry, without those of a listing. -/
theorem unlisted_cons (entry : Entry) (rest : List Entry) :
    unlisted (entry :: rest) = unlisted [entry] ++ unlisted rest :=
  unlisted_append [entry] rest

/-- A span does not make an event one of a listing, or of something else. -/
theorem unlisted_within (span : Span) (entries : List Entry) :
    unlisted (entries.map (Entry.within span)) = (unlisted entries).map (Event.inSpan span) := by
  induction entries with
  | nil => rfl
  | cons entry rest ih =>
    have hentry : unlisted [entry.within span] = (unlisted [entry]).map (Event.inSpan span) := by
      cases entry with
      | event event =>
        by_cases h : event.source = .listing
        · simp [unlisted, events, Entry.within, Entry.event?, h]
        · simp [unlisted, events, Entry.within, Entry.event?, h, Event.inSpan]
      | request request => rfl
      | launch launch => rfl
      | terminal stream bytes => rfl
    rw [List.map_cons, unlisted_cons, hentry, ih, ← List.map_append, ← unlisted_cons]

/-- Where all is of a listing there is no question to a tool, and no other event. -/
theorem of_isListing {entries : List Entry} (h : ∀ entry ∈ entries, entry.IsListing) :
    requests entries = [] ∧ unlisted entries = [] := by
  induction entries with
  | nil => exact ⟨rfl, rfl⟩
  | cons entry rest ih =>
    obtain ⟨⟨event, rfl, hlisting⟩, hrest⟩ := List.forall_mem_cons.mp h
    obtain ⟨hrequests, hunlisted⟩ := ih hrest
    constructor
    · exact hrequests
    · rw [unlisted_cons, hunlisted, List.append_nil]
      simp [unlisted, events, Entry.event?, hlisting]

end Journal

/-! ### Alike outcomes -/

/-- Outcomes that are the same but for the events of a listing. -/
structure Outcome.Alike {α : Type} (outcome other : Outcome α) : Prop where
  requests : Journal.requests outcome.entries = Journal.requests other.entries
  value : outcome.value = other.value
  files : outcome.files = other.files
  events : Journal.unlisted outcome.entries = Journal.unlisted other.entries

namespace Outcome.Alike

variable {α : Type} {first second third : Outcome α}

/-- An outcome is like itself. -/
theorem refl (outcome : Outcome α) : outcome.Alike outcome := ⟨rfl, rfl, rfl, rfl⟩

/-- Of two alike outcomes each is like the other. -/
theorem symm (h : first.Alike second) : second.Alike first :=
  ⟨h.requests.symm, h.value.symm, h.files.symm, h.events.symm⟩

/-- Outcomes that are like the same one are alike. -/
theorem trans (h : first.Alike second) (hn : second.Alike third) : first.Alike third :=
  ⟨h.requests.trans hn.requests, h.value.trans hn.value, h.files.trans hn.files,
    h.events.trans hn.events⟩

end Outcome.Alike

/-! ### Alike attempts -/

variable {ε δ α β : Type} {setting otherSetting : Setting}

/-- Actions that leave the same but for a listing, the first one in one setting and the second one
in another. -/
def Act.Alike (setting otherSetting : Setting) (act other : Act α) : Prop :=
  ∀ files, (act.run setting files).Alike (other.run otherSetting files)

/-- Attempts that leave the same but for a listing, the first one in one setting and the second one
in another. -/
def Attempt.Alike (setting otherSetting : Setting) (attempt other : Attempt ε α) : Prop :=
  ∀ files, (attempt.outcome setting files).Alike (other.outcome otherSetting files)

namespace Attempt.Alike

variable {attempt other : Attempt ε α}

/-- What ignores its setting is like itself in any two. -/
theorem of_ignoresSetting (h : attempt.IgnoresSetting) :
    Alike setting otherSetting attempt attempt := by
  intro files
  rw [h setting otherSetting]
  exact .refl _

/-- Of two alike attempts each is like the other. -/
theorem symm (h : Alike setting otherSetting attempt other) :
    Alike otherSetting setting other attempt := fun files => (h files).symm

/-- Attempts that are like the same one are alike. -/
theorem trans {third : Attempt ε α} {thirdSetting : Setting}
    (h : Alike setting otherSetting attempt other)
    (hn : Alike otherSetting thirdSetting other third) : Alike setting thirdSetting attempt third :=
  fun files => (h files).trans (hn files)

/-- Alike actions that cannot fail are alike as attempts. -/
theorem lift {act otherAct : Act α} (h : act.Alike setting otherSetting otherAct) :
    Alike (ε := ε) setting otherSetting (liftM act) (liftM otherAct) := by
  intro files
  rw [outcome_lift, outcome_lift]
  exact ⟨(h files).requests, congrArg Except.ok (h files).value, (h files).files, (h files).events⟩

/-- Attempts are alike one after the other if the first ones are and, whatever these give, the
second ones. -/
theorem bind {next otherNext : α → Attempt ε β} (h : Alike setting otherSetting attempt other)
    (hn : ∀ a, Alike setting otherSetting (next a) (otherNext a)) :
    Alike setting otherSetting (attempt >>= next) (other >>= otherNext) := by
  intro files
  have hfirst := h files
  cases hv : (attempt.outcome setting files).value with
  | error failure =>
    rw [outcome_bind_error hv, outcome_bind_error (hfirst.value ▸ hv)]
    exact ⟨hfirst.requests, rfl, hfirst.files, hfirst.events⟩
  | ok a =>
    have hnext := hn a (attempt.outcome setting files).files
    rw [outcome_bind_ok hv, outcome_bind_ok (hfirst.value ▸ hv), ← hfirst.files]
    refine ⟨?_, hnext.value, hnext.files, ?_⟩
    · rw [Journal.requests_append, Journal.requests_append, hfirst.requests, hnext.requests]
    · rw [Journal.unlisted_append, Journal.unlisted_append, hfirst.events, hnext.events]

/-- Actions that cannot fail, and then attempts. -/
theorem bind_lift {act otherAct : Act α} {next otherNext : α → Attempt ε β}
    (h : act.Alike setting otherSetting otherAct)
    (hn : ∀ a, Alike setting otherSetting (next a) (otherNext a)) :
    Alike setting otherSetting (liftM act >>= next : Attempt ε β) (liftM otherAct >>= otherNext) :=
  bind (lift h) hn

/-- Logging is alike in any two settings, and then an attempt. -/
theorem bind_log {level : Level} {source : Source} {message : String} {fields : List Field}
    {next otherNext : Unit → Attempt ε β}
    (hn : Alike setting otherSetting (next ()) (otherNext ())) :
    Alike setting otherSetting (liftM (Act.log level source message fields) >>= next)
      (liftM (Act.log level source message fields) >>= otherNext) :=
  bind_lift (fun _ => .refl _) fun _ => hn

/-- Alike failures are alike in other terms. -/
theorem mapFailure (f : ε → δ) (h : Alike setting otherSetting attempt other) :
    Alike setting otherSetting (attempt.mapFailure f) (other.mapFailure f) := by
  intro files
  rw [outcome_mapFailure, outcome_mapFailure]
  exact ⟨(h files).requests, congrArg (Except.mapError f) (h files).value, (h files).files,
    (h files).events⟩

end Attempt.Alike

/-- The listing of the home directory adds nothing but events of a listing. -/
theorem Listed.isListing_logHome : Listed.logHome.Adds Entry.IsListing :=
  adds_logHome fun event hsource _ => ⟨event, rfl, hsource⟩

/-- An attempt after a listing of the home directory is like the attempt without it, whatever there
is to list. -/
theorem Attempt.alike_after_logHome (setting : Setting) (attempt : Attempt ε α) :
    Attempt.Alike setting setting (liftM Listed.logHome >>= fun _ => attempt) attempt := by
  intro files
  obtain ⟨hrequests, hunlisted⟩ := Journal.of_isListing (Listed.isListing_logHome setting files)
  have hfiles := (Listed.idle_logHome setting files).1
  rw [outcome_bind_ok (by rw [outcome_lift]), outcome_lift]
  dsimp only
  rw [hfiles]
  refine ⟨?_, rfl, rfl, ?_⟩
  · rw [Journal.requests_append, hrequests, List.nil_append]
  · rw [Journal.unlisted_append, hunlisted, List.nil_append]

end LocaleRelay
