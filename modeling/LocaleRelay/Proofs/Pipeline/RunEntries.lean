import LocaleRelay.Proofs.Pipeline.Stages
import LocaleRelay.Proofs.ToolEntries

/-!
# What the stages add to the journal

Apart from what its tools add and the stages that it logs, a run adds remarks up to the end of
linting. Then, if it publishes, come the listing of the home directory and what the tools that
publish add.
-/

namespace LocaleRelay

open Files

variable {kind : Entry → Prop}

/-- The listing of a directory adds its events, none of which has a field for a stage. -/
theorem Listed.adds_logDirectory
    (hk : ∀ event : Event, event.source = .listing →
      (∀ field ∈ event.fields, field.name ≠ "stage") → kind (.event event)) (home : RawPath) :
    (Listed.logDirectory home).Adds kind := by
  have hlines : ∀ listing : List Listed, (Listed.logLines listing).Adds kind := by
    intro listing
    induction listing with
    | nil => exact .pure ()
    | cons listed rest ih => exact .bind (.record (hk _ rfl (by simp))) fun _ => ih
  refine .bind .setting fun setting => .bind .files fun files => ?_
  split
  · exact .bind (.record (hk _ rfl (by simp))) fun _ => hlines _
  · exact .record (hk _ rfl (by simp))

/-- The listing of the home directory adds such events too, if there is a home directory or not. -/
theorem Listed.adds_logHome
    (hk : ∀ event : Event, event.source = .listing →
      (∀ field ∈ event.fields, field.name ≠ "stage") → kind (.event event)) :
    Listed.logHome.Adds kind := by
  refine .bind .setting fun setting => ?_
  split
  · exact Listed.adds_logDirectory hk _
  · exact .record (hk _ rfl (by simp))

namespace Run

variable {config : Config} {tools : Tools}

/-- Bringing the working copy up to date adds remarks and what its tools add. -/
theorem adds_acquire (hk : ∀ event : Event, event.IsRemark → kind (.event event))
    (hr : ∀ path, (tools.isRepository path).Adds kind)
    (hp : ∀ path remote, (tools.pull path remote).Adds kind)
    (hc : ∀ remote path, (tools.clone remote path).Adds kind) :
    (acquire config tools).Adds kind := by
  have hlog : ∀ message, (Act.log .info .pipeline message
      [⟨"path", .bare (Text.lossyText config.workingCopyPath)⟩,
        ⟨"remote", .bare config.sourceRemote⟩]).Adds kind :=
    Act.adds_remark hk (by decide) (by simp) _
  refine .bind_lift (hr _) fun present => ?_
  split
  · exact .bind_lift (hlog _) fun _ => (hp _ _).mapFailure _
  · exact .bind_lift (hlog _) fun _ => (hc _ _).mapFailure _

/-- Beginning the report adds remarks and what the question for the commit adds. -/
theorem adds_recordCommit (hk : ∀ event : Event, event.IsRemark → kind (.event event))
    (hh : ∀ path, (tools.headCommit path).Adds kind) : (recordCommit config tools).Adds kind := by
  have hdirectory : (Report.makeDirectory config.statusReportPath).Adds kind := by
    rw [Report.makeDirectory]
    split
    · exact .makeAll _ _
    · exact .pure _
  have hbegin : ∀ commit, (Report.begin config.statusReportPath commit).Adds kind := fun commit =>
    .bind hdirectory fun _ => .bind (.change _) fun _ =>
      .lift (Act.adds_remark hk (by decide) (by simp) _ _)
  exact .bind ((hh _).mapFailure _) fun _ => .bind (hbegin _) fun _ => .pure _

/-- Linting adds what its tool adds. -/
theorem adds_lint (hl : ∀ sink, (tools.lint sink).Adds kind) :
    (Run.lint config tools).Adds kind := by
  refine .bind ?_ fun sink => (hl sink).mapFailure _
  refine .bind_lift .files fun files => ?_
  split
  · exact .pure _
  · exact .throw _

/-- Publishing without the listing adds what its tools add. -/
theorem adds_ask (hc : tools.credentials.Adds kind)
    (hp : ∀ path remote vars, (tools.push path remote vars).Adds kind) :
    (ask config tools).Adds kind :=
  .bind (hc.mapFailure _) fun _ => (hp _ _ _).mapFailure _

end Run

end LocaleRelay
