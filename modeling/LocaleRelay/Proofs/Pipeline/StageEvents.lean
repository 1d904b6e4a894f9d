import LocaleRelay.Proofs.Pipeline.Requests
import LocaleRelay.Proofs.Pipeline.RunEntries

/-!
# Events that carry a stage

The events of a journal that have a field for a stage, apart from all that is logged besides. A run
logs them itself: tools that run processes and scripted ones log none.
-/

namespace LocaleRelay

open Files

/-! ### Events that carry a stage -/

/-- The value of a field of an event. -/
def Event.field? (name : String) (event : Event) : Option Value :=
  (event.fields.find? fun field => field.name = name).map Field.value

/-- An event carries a stage. -/
def Event.Carries (event : Event) (stage : Stage) : Prop :=
  event.field? "stage" = some (.bare stage.name)

/-- An event as it is logged inside a span. -/
def Event.inSpan (span : Span) (event : Event) : Event :=
  { event with span := event.span.or (some span) }

/-- The event of an entry, if it has a field for a stage. -/
def Entry.stageEvent? (entry : Entry) : Option Event :=
  entry.event?.filter fun event => (event.field? "stage").isSome

/-- An entry that is no event with a field for a stage. -/
def Entry.IsStageless (entry : Entry) : Prop := entry.stageEvent? = none

/-- The events of a journal that have a field for a stage, in order. -/
def Journal.stageEvents (entries : List Entry) : List Event :=
  entries.filterMap Entry.stageEvent?

/-- The events with a stage of two journals in a row. -/
theorem Journal.stageEvents_append (first second : List Entry) :
    stageEvents (first ++ second) = stageEvents first ++ stageEvents second :=
  List.filterMap_append

/-- A span changes no field. -/
theorem Event.field?_inSpan (span : Span) (event : Event) (name : String) :
    (event.inSpan span).field? name = event.field? name := rfl

private theorem stageEvent?_within (span : Span) (entry : Entry) :
    (entry.within span).stageEvent? = entry.stageEvent?.map (Event.inSpan span) := by
  cases entry with
  | event event =>
    show Option.filter _ (some (event.inSpan span)) = _
    rw [Entry.stageEvent?, Entry.event?, Option.filter_some, Option.filter_some,
      Event.field?_inSpan]
    split <;> rfl
  | request request => rfl
  | launch launch => rfl
  | terminal stream bytes => rfl

/-- In a span the same events have a stage. -/
theorem Journal.stageEvents_within (span : Span) (entries : List Entry) :
    stageEvents (entries.map (Entry.within span)) =
      (stageEvents entries).map (Event.inSpan span) := by
  rw [stageEvents, List.filterMap_map, stageEvents, List.map_filterMap]
  congr 1
  ext1 entry
  exact stageEvent?_within span entry

/-! ### Tools that log no stage -/

/-- Tools that log no stage, whatever else they do. -/
structure Tools.Reticent (tools : Tools) : Prop where
  isRepository : ∀ path, (tools.isRepository path).Adds Entry.IsStageless
  clone : ∀ remote path, (tools.clone remote path).Adds Entry.IsStageless
  pull : ∀ path remote, (tools.pull path remote).Adds Entry.IsStageless
  headCommit : ∀ path, (tools.headCommit path).Adds Entry.IsStageless
  lint : ∀ sink, (tools.lint sink).Adds Entry.IsStageless
  credentials : tools.credentials.Adds Entry.IsStageless
  push : ∀ path remote vars, (tools.push path remote vars).Adds Entry.IsStageless

/-- An event none of whose fields is for a stage. -/
theorem Event.isStageless_of_fields {event : Event}
    (h : ∀ field ∈ event.fields, field.name ≠ "stage") : (Entry.event event).IsStageless := by
  have hnone : (event.fields.find? fun field => field.name = "stage") = none := by
    rw [List.find?_eq_none]
    intro field hmem
    simpa using h field hmem
  rw [Entry.IsStageless, Entry.stageEvent?, Entry.event?, Option.filter_some, Event.field?, hnone]
  rfl

/-- Tools that run processes log no stage. -/
theorem Config.reticent_tools (config : Config) (host : Host) :
    (config.tools host).Reticent := by
  have hkind : ∀ entry, Entry.OfProcesses entry → entry.IsStageless := by
    intro entry hentry
    cases hentry with
    | launch launch => rfl
    | terminal stream bytes => rfl
    | remark event hremark => exact Event.isStageless_of_fields hremark.2
  have hadds := (config.adds_tools host).mono hkind
  exact ⟨hadds.isRepository, hadds.clone, hadds.pull, hadds.headCommit, hadds.lint,
    hadds.credentials, hadds.push⟩

/-- Scripted tools log no stage, whatever happens to the files with each request. -/
theorem Script.reticent_tools (script : Script) (edit : Request → FileSystem → FileSystem) :
    (script.tools.editing edit).Reticent := by
  have hanswer : ∀ {ε α : Type} (request : Request) (given : Except ε α)
      (edit : FileSystem → FileSystem),
      ((answer request given).afterwards edit).Adds Entry.IsStageless := by
    intro ε α request given edit setting files entry hmem
    rw [outcome_answer_afterwards] at hmem
    rw [List.mem_singleton.mp hmem]
    rfl
  constructor
  case isRepository =>
    intro path
    refine .bind (.bind (.record rfl) fun _ => .pure _) fun _ => ?_
    exact .bind .files fun _ => .bind (.setFiles _) fun _ => .pure _
  case clone => exact fun remote path => hanswer _ _ _
  case pull => exact fun path remote => hanswer _ _ _
  case headCommit => exact fun path => hanswer _ _ _
  case credentials => exact hanswer _ _ _
  case push => exact fun path remote vars => hanswer _ _ _
  case lint =>
    intro sink setting files entry hmem
    rw [outcome_lint_editing] at hmem
    rw [List.mem_singleton.mp hmem]
    rfl

end LocaleRelay
