import LocaleRelay.Pipeline.Tools
import LocaleRelay.Proofs.Entries

/-!
# What tools add to the journal

Tools that run processes add the processes, what these write to the terminal, and remarks: events
that carry no stage and belong to no listing of a directory. They add nothing else.
-/

namespace LocaleRelay

open Files

/-- An event by the way: it has no field for a stage and is not part of a listing. -/
def Event.IsRemark (event : Event) : Prop :=
  event.source ≠ .listing ∧ ∀ field ∈ event.fields, field.name ≠ "stage"

/-- Logging a remark adds it. -/
theorem Act.adds_remark {kind : Entry → Prop}
    (hk : ∀ event : Event, event.IsRemark → kind (.event event)) {source : Source}
    {fields : List Field} (hs : source ≠ .listing) (hf : ∀ field ∈ fields, field.name ≠ "stage")
    (level : Level) (message : String) : (Act.log level source message fields).Adds kind :=
  .record (hk _ ⟨hs, hf⟩)

/-- Tools whose entries are all of a kind. -/
structure Tools.Adds (kind : Entry → Prop) (tools : Tools) : Prop where
  isRepository : ∀ path, (tools.isRepository path).Adds kind
  clone : ∀ remote path, (tools.clone remote path).Adds kind
  pull : ∀ path remote, (tools.pull path remote).Adds kind
  headCommit : ∀ path, (tools.headCommit path).Adds kind
  lint : ∀ sink, (tools.lint sink).Adds kind
  credentials : tools.credentials.Adds kind
  push : ∀ path remote vars, (tools.push path remote vars).Adds kind

/-- What tools add of a kind is of a wider one. -/
theorem Tools.Adds.mono {kind wider : Entry → Prop} {tools : Tools} (h : tools.Adds kind)
    (hk : ∀ entry, kind entry → wider entry) : tools.Adds wider where
  isRepository path := (h.isRepository path).mono hk
  clone remote path := (h.clone remote path).mono hk
  pull path remote := (h.pull path remote).mono hk
  headCommit path := (h.headCommit path).mono hk
  lint sink := (h.lint sink).mono hk
  credentials := h.credentials.mono hk
  push path remote vars := (h.push path remote vars).mono hk

/-- An entry of a tool that runs processes. -/
inductive Entry.OfProcesses : Entry → Prop
  | launch (launch : Launch) : OfProcesses (.launch launch)
  | terminal (stream : Stream) (bytes : ByteArray) : OfProcesses (.terminal stream bytes)
  | remark (event : Event) (h : event.IsRemark) : OfProcesses (.event event)

private theorem adds_deliver (chunks : List Chunk) (destination : Destination) :
    (deliver chunks destination).Adds Entry.OfProcesses := by
  have hchunks : ∀ chunks : List Chunk,
      (Act.recordAll (chunks.map Chunk.entry)).Adds Entry.OfProcesses := by
    intro chunks
    refine .recordAll fun entry hmem => ?_
    obtain ⟨chunk, -, rfl⟩ := List.mem_map.mp hmem
    exact .terminal _ _
  cases destination with
  | terminal => exact .bind (hchunks _) fun _ => .pure _
  | kept => exact .bind (hchunks _) fun _ => .pure _
  | file place => exact .bind .files fun _ => .bind (.setFiles _) fun _ => .pure _

private theorem adds_execute (host : Host) (command : Command) (destination : Destination) :
    (execute host command destination).Adds Entry.OfProcesses := by
  refine .bind_lift .setting fun setting => .bind_lift .files fun files => ?_
  split
  · exact .throw _
  · refine .bind_lift (.record (.launch _)) fun _ => .bind_lift (adds_deliver _ _) fun _ => ?_
    exact .bind_lift .files fun _ => .bind_lift (.setFiles _) fun _ => .pure _

namespace Repository

private theorem adds_run (host : Host) (number : Nat) (args : List (List UInt8))
    (vars : Variables) : (run host number args vars).Adds Entry.OfProcesses := by
  refine .bind_lift (Act.adds_remark .remark (by decide) (by simp) _ _) fun _ => ?_
  refine .bind ((adds_execute host _ _).mapFailure _) fun finished => ?_
  split
  · exact .pure _
  · exact .bind_lift (Act.adds_remark .remark (by decide) (by simp) _ _) fun _ => .throw _

private theorem adds_makeParent (path : RawPath) :
    (makeParent path).Adds Entry.OfProcesses := by
  rw [makeParent]
  split
  · refine .bind_lift .files fun files => ?_
    split
    · exact .bind (.makeAll _ _) fun _ => .lift (Act.adds_remark .remark (by decide) (by simp) _ _)
    · exact .pure _
  · exact .pure _

private theorem adds_headCommit (host : Host) (path : RawPath) :
    (headCommit host path).Adds Entry.OfProcesses := by
  refine .bind ((adds_execute host _ _).mapFailure _) fun finished => ?_
  split
  · dsimp only
    split
    · exact .throw _
    · exact .pure _
  · exact .throw _

end Repository

private theorem LintConfig.adds_run (host : Host) (lint : LintConfig) (sink : Location) :
    (lint.run host sink).Adds Entry.OfProcesses := by
  refine .bind_lift (Act.adds_remark .remark (by decide) (by simp) _ _) fun _ => ?_
  refine .bind ((adds_execute host _ _).mapFailure _) fun finished => ?_
  split
  · exact .lift (Act.adds_remark .remark (by decide) (by simp) _ _)
  · exact .bind_lift (Act.adds_remark .remark (by decide) (by simp) _ _) fun _ => .throw _

private theorem Credentials.adds_ofKey (path : String) :
    (ofKey path).Adds Entry.OfProcesses := by
  refine .bind_lift .setting fun setting => .bind_lift .files fun files => ?_
  split
  · exact .bind_lift (Act.adds_remark .remark (by decide) (by simp) _ _) fun _ => .pure _
  · exact .throw _

/-- Tools that run processes add nothing but entries of that kind. -/
theorem Config.adds_tools (config : Config) (host : Host) :
    (config.tools host).Adds Entry.OfProcesses where
  isRepository path := .bind .files fun _ => .pure _
  clone remote path := .bind (Repository.adds_makeParent path) fun _ =>
    .bind (Repository.adds_run host _ _ _) fun _ =>
      .lift (Act.adds_remark .remark (by decide) (by simp) _ _)
  pull path remote := .bind (Repository.adds_run host _ _ _) fun _ =>
    .lift (Act.adds_remark .remark (by decide) (by simp) _ _)
  headCommit path := Repository.adds_headCommit host path
  lint sink := LintConfig.adds_run host _ sink
  credentials := Credentials.adds_ofKey _
  push path remote vars := .bind (Repository.adds_run host _ _ _) fun _ =>
    .lift (Act.adds_remark .remark (by decide) (by simp) _ _)

end LocaleRelay
