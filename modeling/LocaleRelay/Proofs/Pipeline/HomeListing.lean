import LocaleRelay.Proofs.Pipeline.Candor

/-!
# The listing of the home directory

The listing is there for those who read the log, and for nothing else. Runs that differ in whether
it is made and in the home directory put the same questions to tools that answer alike, end alike
and leave the same files, whatever the home directories hold. The listing comes in one piece. It
comes only if the run was asked to publish and lint passed, after the end of linting is logged and
before anything is published.
-/

namespace LocaleRelay

open Files

/-- An entry that may stand before the listing: it is not of a listing itself, and nothing is
published with it. -/
def Entry.IsEarly (entry : Entry) : Prop :=
  ¬ entry.IsListing ∧ ∀ path remote vars, entry ≠ .request (.push path remote vars)

/-- An event is early unless it is of a listing. -/
theorem Entry.isEarly_event {event : Event} (h : event.source ≠ .listing) :
    (Entry.event event).IsEarly := by
  constructor
  · rintro ⟨other, hother, hlisting⟩
    cases hother
    exact h hlisting
  · intro path remote vars hrequest
    cases hrequest

/-- Inside a span an entry is early or not, as it was. -/
theorem Entry.isEarly_within (span : Span) (entry : Entry) :
    (entry.within span).IsEarly ↔ entry.IsEarly := by
  rw [IsEarly, isListing_within, IsEarly]
  cases entry <;> simp [Entry.within]

/-- What puts a question to a tool is early, unless it is the one to publish. -/
theorem Outcome.Asks.isEarly {α : Type} {request : Request} {outcome : Outcome α}
    (h : outcome.Asks request) (hr : ∀ path remote vars, request ≠ .push path remote vars) :
    ∀ entry ∈ outcome.entries, entry.IsEarly := by
  intro entry hmem
  refine ⟨h.unlisted entry hmem, ?_⟩
  rintro path remote vars rfl
  have hpush : Request.push path remote vars ∈ Journal.requests outcome.entries :=
    List.mem_filterMap.mpr ⟨_, hmem, rfl⟩
  rw [h.requests, List.mem_singleton] at hpush
  exact hr path remote vars hpush.symm

namespace Run

variable {config : Config} {tools other : Tools} {requested : Bool}
  {setting otherSetting : Setting} {files : FileSystem}

/-! ### Two runs -/

/-- Until lint has passed, runs with tools that answer alike are alike. -/
theorem alike_untilLinted (h : tools.Alike setting otherSetting other) :
    Attempt.Alike setting otherSetting (untilLinted config tools) (untilLinted config other) := by
  have hacquire : Attempt.Alike setting otherSetting (acquire config tools)
      (acquire config other) := by
    refine .bind_lift (h.isRepository _) fun present => ?_
    split
    · exact .bind_log ((h.pull _ _).mapFailure _)
    · exact .bind_log ((h.clone _ _).mapFailure _)
  have hrecord : Attempt.Alike setting otherSetting (recordCommit config tools)
      (recordCommit config other) :=
    .bind ((h.headCommit _).mapFailure _) fun commit =>
      .bind (.of_ignoresSetting (Report.ignoresSetting_begin _ _)) fun _ =>
        .of_ignoresSetting (.pure _)
  have hlint : Attempt.Alike setting otherSetting (Run.lint config tools)
      (Run.lint config other) :=
    .bind (.of_ignoresSetting (Report.ignoresSetting_openAppend _)) fun sink =>
      (h.lint sink).mapFailure _
  refine .bind hacquire fun _ => .bind_log ?_
  refine .bind hrecord fun commit => .bind_log ?_
  exact .bind hlint fun _ => .bind_log (.of_ignoresSetting (.pure _))

/-- Publishing is like publishing without the listing. -/
theorem alike_publish_ask (setting : Setting) (config : Config) (tools : Tools) :
    Attempt.Alike setting setting (publish config tools) (ask config tools) := by
  rw [publish_eq]
  split
  · exact Attempt.alike_after_logHome setting _
  · exact fun files => .refl _

/-- With tools that answer alike, publishing is alike with a listing and without one. -/
theorem alike_publish (h : tools.Alike setting otherSetting other) (listHome : Bool) :
    Attempt.Alike setting otherSetting (publish config tools)
      (publish { config with listHomeBeforePush := listHome } other) := by
  have hask : Attempt.Alike setting otherSetting (ask config tools) (ask config other) :=
    .bind (h.credentials.mapFailure _) fun vars => (h.push _ _ vars).mapFailure _
  have hother : Attempt.Alike otherSetting otherSetting (ask config other)
      (publish { config with listHomeBeforePush := listHome } other) :=
    (alike_publish_ask otherSetting { config with listHomeBeforePush := listHome } other).symm
  exact ((alike_publish_ask setting config tools).trans hask).trans hother

/-- The stages of two runs that differ in the listing are alike. -/
theorem alike_stages (h : tools.Alike setting otherSetting other) (listHome requested : Bool) :
    Attempt.Alike setting otherSetting (stages config tools requested)
      (stages { config with listHomeBeforePush := listHome } other requested) := by
  rw [stages_eq, stages_eq]
  refine .bind (alike_untilLinted h) fun commit => ?_
  refine .bind ?_ fun stage => .of_ignoresSetting (.pure _)
  -- The listing is in the last stage only, and there only in a run that publishes.
  cases requested with
  | false => exact .bind_log (.of_ignoresSetting (.pure _))
  | true => exact .bind (alike_publish h listHome) fun _ => .bind_log (.of_ignoresSetting (.pure _))

/-- Runs are alike if their stages are. -/
theorem alike_perform_of_stages {otherConfig : Config}
    (h : Attempt.Alike setting otherSetting (stages config tools requested)
      (stages otherConfig other requested)) :
    Attempt.Alike setting otherSetting (perform config tools requested)
      (perform otherConfig other requested) := by
  intro files
  obtain ⟨hvalue, hfiles⟩ := outcome_perform config tools requested setting files
  obtain ⟨hotherValue, hotherFiles⟩ :=
    outcome_perform otherConfig other requested otherSetting files
  constructor
  · rw [requests_perform, requests_perform, (h files).requests]
  · rw [hvalue, hotherValue, (h files).value]
  · rw [hfiles, hotherFiles, (h files).files]
  · rw [entries_perform, entries_perform, Journal.unlisted_within, Journal.unlisted_within,
      Journal.unlisted_cons, Journal.unlisted_append, (h files).events, (h files).value,
      ← Journal.unlisted_append, ← Journal.unlisted_cons]

/-! ### The place of the listing -/

/-- The listing comes only when it is due, after an event and before anything is published. -/
def ListsInPlace (due : Prop) (linted : Event) (entries : List Entry) : Prop :=
  ∀ before event after, entries = before ++ .event event :: after → event.source = .listing →
    due ∧ .event linted ∈ before ∧
      ∀ path remote vars, .push path remote vars ∉ Journal.requests before

/-- The journal of a run in three pieces, of which the one in the middle is the listing. -/
structure Cut (due : Prop) (linted : Event) (first piece rest : List Entry) : Prop where
  early : ∀ entry ∈ first, entry.IsEarly
  listing : ∀ entry ∈ piece, entry.IsListing
  late : ∀ entry ∈ rest, ¬ entry.IsListing
  due : piece ≠ [] → due ∧ .event linted ∈ first

private theorem exists_beginning {first piece rest before after : List Entry} {entry : Entry}
    (h : before ++ entry :: after = first ++ (piece ++ rest)) (hf : entry ∉ first)
    (hr : entry ∉ rest) : ∃ part more, before = first ++ part ∧ piece = part ++ entry :: more := by
  -- The entry is not in the first piece, so that piece has ended before it.
  have hafter : ∃ part, before = first ++ part ∧ piece ++ rest = part ++ entry :: after := by
    rcases List.append_eq_append_iff.mp h with ⟨more, rfl, hmore⟩ | ⟨part, hpart⟩
    · cases more with
      | nil => exact ⟨[], by simp, hmore.symm⟩
      | cons other more =>
        obtain ⟨rfl, -⟩ := List.cons.inj hmore
        exact absurd (by simp) hf
    · exact ⟨part, hpart⟩
  obtain ⟨part, rfl, hpart⟩ := hafter
  rcases List.append_eq_append_iff.mp hpart with ⟨further, -, rfl⟩ | ⟨more, rfl, hmore⟩
  · exact absurd (by simp) hr
  · cases more with
    | nil =>
      rw [List.nil_append] at hmore
      exact absurd (hmore ▸ List.mem_cons_self) hr
    | cons other more =>
      obtain ⟨rfl, -⟩ := List.cons.inj hmore
      exact ⟨part, more, rfl, rfl⟩

/-- In a journal that is cut so the listing is in its place. -/
theorem Cut.listsInPlace {due : Prop} {linted : Event} {first piece rest : List Entry}
    (h : Cut due linted first piece rest) : ListsInPlace due linted (first ++ (piece ++ rest)) := by
  intro before event after hentries hsource
  have hlisting : Entry.IsListing (.event event) := ⟨event, rfl, hsource⟩
  obtain ⟨part, more, rfl, rfl⟩ := exists_beginning hentries.symm
    (fun hmem => (h.early _ hmem).1 hlisting) (fun hmem => h.late _ hmem hlisting)
  obtain ⟨hdue, hlinted⟩ := h.due (by simp)
  refine ⟨hdue, List.mem_append_left _ hlinted, fun path remote vars hpush => ?_⟩
  have hpart : ∀ entry ∈ part, entry.IsListing :=
    fun entry hmem => h.listing entry (List.mem_append_left _ hmem)
  rw [Journal.requests_append, (Journal.of_isListing hpart).1, List.append_nil] at hpush
  obtain ⟨entry, hmem, hrequest⟩ := List.mem_filterMap.mp hpush
  exact (h.early entry hmem).2 path remote vars (Entry.request?_eq_some_iff.mp hrequest)

/-- A journal without a listing is cut after its end. -/
theorem Cut.of_early {due : Prop} {linted : Event} {first : List Entry}
    (h : ∀ entry ∈ first, entry.IsEarly) : Cut due linted first [] [] :=
  ⟨h, by simp, by simp, fun hne => absurd rfl hne⟩

/-- A journal with an early entry before it is cut at the same place. -/
theorem Cut.cons {due : Prop} {linted : Event} {entry : Entry} {first piece rest : List Entry}
    (h : Cut due linted first piece rest) (he : entry.IsEarly) :
    Cut due linted (entry :: first) piece rest := by
  refine ⟨List.forall_mem_cons.mpr ⟨he, h.early⟩, h.listing, h.late, fun hne => ?_⟩
  obtain ⟨hdue, hlinted⟩ := h.due hne
  exact ⟨hdue, List.mem_cons_of_mem _ hlinted⟩

/-- A journal that goes on without a listing is cut at the same place. -/
theorem Cut.append {due : Prop} {linted : Event} {first piece rest more : List Entry}
    (h : Cut due linted first piece rest) (hm : ∀ entry ∈ more, ¬ entry.IsListing) :
    Cut due linted first piece (rest ++ more) := by
  refine ⟨h.early, h.listing, fun entry hmem => ?_, h.due⟩
  rcases List.mem_append.mp hmem with hmem | hmem
  · exact h.late entry hmem
  · exact hm entry hmem

/-- A journal is cut at the same place inside a span. -/
theorem Cut.within {due : Prop} {linted : Event} {first piece rest : List Entry}
    (h : Cut due linted first piece rest) (span : Span) :
    Cut due (linted.inSpan span) (first.map (Entry.within span)) (piece.map (Entry.within span))
      (rest.map (Entry.within span)) := by
  constructor
  · rw [List.forall_mem_map]
    exact fun entry hmem => (Entry.isEarly_within span entry).mpr (h.early entry hmem)
  · rw [List.forall_mem_map]
    exact fun entry hmem => (Entry.isListing_within span entry).mpr (h.listing entry hmem)
  · rw [List.forall_mem_map]
    exact fun entry hmem => mt (Entry.isListing_within span entry).mp (h.late entry hmem)
  · intro hne
    obtain ⟨hdue, hlinted⟩ := h.due (mt (congrArg (List.map (Entry.within span))) hne)
    exact ⟨hdue, List.mem_map_of_mem hlinted⟩

/-- Logging a stage is early. -/
theorem adds_logStage (level : Level) (stage : Stage) (message : String) (fields : List Field) :
    (logStage level stage message fields).Adds Entry.IsEarly :=
  .record (Entry.isEarly_event (by simp))

/-- Up to the end of linting nothing is listed and nothing published. -/
theorem adds_untilLinted (h : tools.Candid) (config : Config) :
    (untilLinted config tools).Adds Entry.IsEarly := by
  have hremark : ∀ event : Event, event.IsRemark → (Entry.event event).IsEarly :=
    fun event hevent => Entry.isEarly_event hevent.1
  have hacquire : (acquire config tools).Adds Entry.IsEarly := by
    apply adds_acquire hremark
    · exact fun path setting files => (h.isRepository path setting files).isEarly (by simp)
    · exact fun path remote setting files => (h.pull path remote setting files).isEarly (by simp)
    · exact fun remote path setting files => (h.clone remote path setting files).isEarly (by simp)
  have hrecord : (recordCommit config tools).Adds Entry.IsEarly :=
    adds_recordCommit hremark fun path setting files =>
      (h.headCommit path setting files).isEarly (by simp)
  have hlint : (Run.lint config tools).Adds Entry.IsEarly :=
    adds_lint fun sink setting files => (h.lint sink setting files).isEarly (by simp)
  refine .bind hacquire fun _ => .bind_lift (adds_logStage _ _ _ _) fun _ => ?_
  refine .bind hrecord fun commit => .bind_lift (adds_logStage _ _ _ _) fun _ => ?_
  exact .bind hlint fun _ => .bind_lift (adds_logStage _ _ _ _) fun _ => .pure _

/-- Where a run comes to its last stage, lint has passed. -/
theorem linted_of_untilLinted {commit : String}
    (h : ((untilLinted config tools).outcome setting files).value = .ok commit) :
    (linted config tools setting files).value = .ok () := by
  -- Between the stages nothing is done but logging, so each one finds what the last one left.
  obtain ⟨_, -, h⟩ := Attempt.value_bind_eq_ok h
  obtain ⟨_, -, h⟩ := Attempt.value_bind_eq_ok h
  obtain ⟨_, -, h⟩ := Attempt.value_bind_eq_ok h
  obtain ⟨_, -, h⟩ := Attempt.value_bind_eq_ok h
  obtain ⟨_, h, -⟩ := Attempt.value_bind_eq_ok h
  exact h

/-- What a run does once it has published. -/
def published (config : Config) (commit : String) : Attempt RunFailure RunReport := do
  logStage .info .published "[PIPELINE] Published" [⟨"remote", .bare config.deploymentRemote⟩]
  return { commit, statusReport := config.statusReportPath, publication := .publish,
           stage := .published }

/-- The last stage of a run that was asked to publish. -/
theorem afterLinted_publish (config : Config) (tools : Tools) (commit : String) :
    afterLinted config tools true commit =
      publish config tools >>= fun _ => published config commit := by
  simp [afterLinted, conclude, published, Publication.decide]

/-- What a run adds in its last stage: the listing, if it publishes, and then nothing of a
listing. -/
theorem exists_listing_afterLinted (h : tools.Candid) (config : Config) (requested : Bool)
    (commit : String) (setting : Setting) (files : FileSystem) :
    ∃ piece rest, ((afterLinted config tools requested commit).outcome setting files).entries =
        piece ++ rest ∧
      (∀ entry ∈ piece, entry.IsListing) ∧ (∀ entry ∈ rest, ¬ entry.IsListing) ∧
      (piece ≠ [] → requested = true) := by
  have hlog : ∀ level stage message fields,
      (logStage level stage message fields).Adds fun entry => ¬ entry.IsListing :=
    fun _ _ _ _ => (adds_logStage _ _ _ _).mono fun _ hearly => hearly.1
  cases requested with
  | false =>
    have hskip : (afterLinted config tools false commit).Adds fun entry => ¬ entry.IsListing :=
      .bind (.bind_lift (hlog _ _ _ _) fun _ => .pure _) fun _ => .pure _
    exact ⟨[], _, rfl, by simp, hskip setting files, fun hne => absurd rfl hne⟩
  | true =>
    have hask : (ask config tools).Adds fun entry => ¬ entry.IsListing := by
      apply adds_ask
      · exact fun setting files => (h.credentials setting files).unlisted
      · exact fun path remote vars setting files => (h.push path remote vars setting files).unlisted
    have hrest : Attempt.Adds (fun entry => ¬ entry.IsListing)
        (ask config tools >>= fun _ => published config commit) :=
      .bind hask fun _ => .bind_lift (hlog _ _ _ _) fun _ => .pure _
    rw [afterLinted_publish, publish_eq]
    split
    · rw [bind_assoc, Attempt.outcome_bind_ok (by rw [Attempt.outcome_lift]), Attempt.outcome_lift]
      exact ⟨_, _, rfl, Listed.isListing_logHome setting files, hrest setting _, fun _ => rfl⟩
    · exact ⟨[], _, rfl, by simp, hrest setting files, fun hne => absurd rfl hne⟩

/-- The journal of the stages is cut where lint has passed. -/
theorem exists_cut_stages (h : tools.Candid) (config : Config) (requested : Bool)
    (setting : Setting) (files : FileSystem) :
    ∃ first piece rest,
      ((stages config tools requested).outcome setting files).entries = first ++ (piece ++ rest) ∧
      Cut (requested = true ∧ (linted config tools setting files).value = .ok ()) lintedEvent
        first piece rest := by
  have hearly := adds_untilLinted h config setting files
  rw [stages_eq]
  cases ho : ((untilLinted config tools).outcome setting files).value with
  | error failure =>
    rw [Attempt.outcome_bind_error ho]
    exact ⟨_, [], [], by simp, .of_early hearly⟩
  | ok commit =>
    rw [Attempt.outcome_bind_ok ho]
    obtain ⟨piece, rest, hentries, hpiece, hrest, hrequested⟩ :=
      exists_listing_afterLinted h config requested commit setting
        ((untilLinted config tools).outcome setting files).files
    refine ⟨_, piece, rest, by rw [hentries], hearly, hpiece, hrest, fun hne => ?_⟩
    exact ⟨⟨hrequested hne, linted_of_untilLinted ho⟩,
      notes_lintedEvent config tools setting files commit ho⟩

/-- The listing of a run is in its place. -/
theorem listsInPlace_perform (h : tools.Candid) (config : Config) (requested : Bool)
    (setting : Setting) (files : FileSystem) :
    ListsInPlace (requested = true ∧ (linted config tools setting files).value = .ok ())
      (lintedEvent.inSpan ⟨requested⟩)
      ((perform config tools requested).outcome setting files).entries := by
  obtain ⟨first, piece, rest, hentries, hcut⟩ := exists_cut_stages h config requested setting files
  have hstart : (Entry.event startEvent).IsEarly := Entry.isEarly_event (by decide)
  have hclosing : ∀ entry ∈ (closingEvents ((stages config tools requested).outcome setting
      files).value).map Entry.event, ¬ entry.IsListing := by
    cases ((stages config tools requested).outcome setting files).value with
    | ok report => simp [closingEvents]
    | error failure =>
      have hfailure : (Entry.event (failureEvent failure)).IsEarly :=
        Entry.isEarly_event (by simp [failureEvent, stageEvent])
      simpa [closingEvents] using hfailure.1
  have hplace := (((hcut.cons hstart).append hclosing).within ⟨requested⟩).listsInPlace
  rw [entries_perform, hentries]
  simpa using hplace

/-! ### Both -/

/-- Two runs that differ in whether the home directory is listed, and in which directory that is, if
there is one, are alike with tools that answer alike. A listing comes only if the run was asked to
publish and lint passed, and then after the end of linting is logged and before anything is
published. -/
theorem alike_perform (h : tools.Candid) (ha : tools.Alike setting otherSetting other)
    (config : Config) (listHome requested : Bool) (files : FileSystem) :
    let run := (perform config tools requested).outcome setting files
    let otherRun := (perform { config with listHomeBeforePush := listHome } other
      requested).outcome otherSetting files
    run.Alike otherRun ∧
      ListsInPlace (requested = true ∧ (linted config tools setting files).value = .ok ())
        (lintedEvent.inSpan ⟨requested⟩) run.entries :=
  ⟨alike_perform_of_stages (alike_stages ha listHome requested) files,
    listsInPlace_perform h config requested setting files⟩

/-- A run that publishes without listing the home directory, and one that would list it, but without
one. -/
theorem alike_perform_missing_home :
    let config : Config :=
      { Config.builtIn with sshKeyPath := "/keys/deploy", listHomeBeforePush := false }
    let host : Host := fun launch =>
      ⟨if launch.number = 1 then [⟨.output, "4f1c\n".toUTF8⟩] else [], id, .exited 0⟩
    let tools := (config.tools host).noting
    let setting : Setting := ⟨some (utf8 "/keys"), ⟨[]⟩, fun _ => 4096⟩
    let otherSetting : Setting := ⟨none, ⟨[]⟩, fun _ => 4096⟩
    let files : FileSystem := ⟨.directory
      [(utf8 "bin", .directory [(utf8 "git", .file ByteArray.empty true),
        (utf8 "make", .file ByteArray.empty true)]),
      (utf8 "keys", .directory [(utf8 "deploy", .file ByteArray.empty false)])],
      []⟩
    let run := (perform config tools true).outcome setting files
    let otherRun := (perform { config with listHomeBeforePush := true } tools true).outcome
      otherSetting files
    tools.Candid ∧ tools.Alike setting otherSetting tools ∧
      run.value = .ok ⟨"4f1c", utf8 "media/postatus.txt", .publish, .published⟩ ∧
      (∃ event ∈ Journal.events otherRun.entries, event.source = .listing ∧
        event.message = "No home directory found; skipping listing") ∧
      run.Alike otherRun ∧
      ListsInPlace (true = true ∧ (linted config tools setting files).value = .ok ())
        (lintedEvent.inSpan ⟨true⟩) run.entries := by
  intro config host tools setting otherSetting files run otherRun
  have hcandid : tools.Candid := config.candid_noting host
  have hkey : Credentials.keyPath setting.home config.sshKeyPath =
      Credentials.keyPath otherSetting.home config.sshKeyPath := by decide +kernel
  have hprocesses : (config.tools host).Alike setting otherSetting (config.tools host) :=
    Config.alike_tools rfl hkey
  have halike : tools.Alike setting otherSetting tools := hprocesses.noting
  refine ⟨hcandid, halike, by decide +kernel, by decide +kernel, ?_⟩
  exact alike_perform hcandid halike config true true files

end Run

end LocaleRelay
