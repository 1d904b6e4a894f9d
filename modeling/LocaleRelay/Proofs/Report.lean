import LocaleRelay.Proofs.Files.Operations
import LocaleRelay.Report

/-!
# What beginning a report does to the files

Beginning a report makes missing directories above it and then writes the header. If it fails, the
path names no regular file, neither before nor afterwards, so no earlier report is lost. If it
succeeds, the path leads to a file that holds the header or to a device, and opening it for adding
cannot fail.
-/

namespace LocaleRelay.Report

open Files FileSystem

variable {path : RawPath} {commit : String} {setting : Setting} {files : FileSystem}

/-- The directories above a report. -/
def directories (path : RawPath) : List RawPath :=
  (Path.namedParent? path).toList.flatMap Path.ancestors

/-- The places at which work on a report may change the files: that of the report, and those of
directories above it that were missing. -/
def Place (path : RawPath) (before after : FileSystem) (place : Location) : Prop :=
  (∃ node, after.lookup path = .ok (place, node)) ∨
    NewDirectory (directories path) before after place

/-! ### The steps of beginning a report -/

private theorem outcome_makeDirectory (path : RawPath) (setting : Setting) (files : FileSystem) :
    ∃ parent, (∀ fault, (files.makeChain (directories path)).2 = .error fault →
        Path.namedParent? path = some parent) ∧
      (makeDirectory path).outcome setting files =
        ⟨(files.makeChain (directories path)).2.mapError (refuse parent),
          (files.makeChain (directories path)).1, []⟩ := by
  rw [makeDirectory, directories]
  cases hparent : Path.namedParent? path with
  | none =>
    refine ⟨[], ?_, rfl⟩
    intro fault h
    cases h
  | some parent =>
    refine ⟨parent, fun _ _ => rfl, ?_⟩
    rw [Option.toList_some, List.flatMap_singleton]
    exact Attempt.outcome_makeAll parent (refuse parent) setting files

/-- Beginning a report fails at a directory, fails at the file, or writes the header. -/
theorem outcome_begin (path : RawPath) (commit : String) (setting : Setting) (files : FileSystem) :
    (∃ parent fault, Path.namedParent? path = some parent ∧
      (files.makeChain (directories path)).2 = .error fault ∧
      (begin path commit).outcome setting files =
        ⟨.error (.write parent fault), (files.makeChain (directories path)).1, []⟩) ∨
    (∃ fault, (files.makeChain (directories path)).2 = .ok () ∧
      (files.makeChain (directories path)).1.write path (header commit).toUTF8 =
        .error fault ∧
      (begin path commit).outcome setting files =
        ⟨.error (.write path fault), (files.makeChain (directories path)).1, []⟩) ∨
    ∃ after event, (files.makeChain (directories path)).2 = .ok () ∧
      (files.makeChain (directories path)).1.write path (header commit).toUTF8 =
        .ok after ∧
      (begin path commit).outcome setting files = ⟨.ok (), after, [.event event]⟩ := by
  obtain ⟨parent, hparent, hdir⟩ := outcome_makeDirectory path setting files
  rw [begin]
  cases hmade : (files.makeChain (directories path)).2 with
  | error fault =>
    left
    refine ⟨parent, fault, hparent fault hmade, rfl, ?_⟩
    rw [Attempt.outcome_bind_error (e := .write parent fault) (by rw [hdir, hmade]; rfl), hdir]
  | ok _ =>
    right
    rw [Attempt.outcome_bind_ok (a := ()) (by rw [hdir, hmade]; rfl), hdir]
    have hwrite := Attempt.outcome_change (fun files =>
      (files.write path (header commit).toUTF8).mapError (refuse path)) setting
      (files.makeChain (directories path)).1
    cases hw : (files.makeChain (directories path)).1.write path
        (header commit).toUTF8 with
    | error fault =>
      left
      rw [hw] at hwrite
      refine ⟨fault, rfl, rfl, ?_⟩
      rw [writeHeader, Attempt.outcome_bind_error (e := .write path fault) (by rw [hwrite]; rfl),
        hwrite]
      rfl
    | ok after =>
      right
      rw [hw] at hwrite
      refine ⟨after, ⟨.debug, .report, "Initialised status report",
        [⟨"path", .bare (Text.lossyText path)⟩, ⟨"hash", .quoted commit⟩], none⟩, rfl, rfl, ?_⟩
      rw [writeHeader, Attempt.outcome_bind_ok (a := ()) (by rw [hwrite]; rfl), hwrite,
        Attempt.outcome_lift]
      rfl

/-- A report that cannot be begun cannot be written. -/
theorem write_of_begin_error {failure : RunFailure}
    (h : ((begin path commit).outcome setting files).value = .error failure) :
    ∃ place fault, failure = .write place fault := by
  rcases outcome_begin path commit setting files with
    ⟨parent, fault, -, -, ho⟩ | ⟨fault, -, -, ho⟩ | ⟨after, event, -, -, ho⟩
  · rw [ho] at h
    cases h
    exact ⟨parent, fault, rfl⟩
  · rw [ho] at h
    cases h
    exact ⟨path, fault, rfl⟩
  · rw [ho] at h
    cases h

/-! ### What stays -/

private theorem endsInName_of_mem_directories {path : RawPath} :
    ∀ dir ∈ directories path, EndsInName dir := by
  intro dir hdir
  obtain ⟨parent, -, hancestor⟩ := List.mem_flatMap.mp hdir
  exact Path.endsInName_of_mem_ancestors hancestor

private theorem append_of_mem_directories {dir : RawPath} (h : dir ∈ directories path) :
    ∃ rest, path = dir ++ slash :: rest := by
  obtain ⟨parent, hparent, hancestor⟩ := List.mem_flatMap.mp h
  exact Path.append_of_mem_ancestors (Option.mem_toList.mp hparent) hancestor

/-- The directories of a report are all that is new when they are made. -/
theorem differsOnly_directories (path : RawPath) (files : FileSystem) :
    DiffersOnly (NewDirectory (directories path) files (files.makeChain (directories path)).1)
      files (files.makeChain (directories path)).1 :=
  differsOnly_makeChain _ endsInName_of_mem_directories files

private theorem fileContent?_of_refused_directory {fault : Fault}
    (h : (files.makeChain (directories path)).2 = .error fault) :
    (files.makeChain (directories path)).1.fileContent? path = none := by
  have hchain : files.makeChain (directories path) =
      ((files.makeChain (directories path)).1, .error fault) := by
    rw [← h]
  obtain ⟨dir, hmem, hdir⟩ := makeChain_eq_error hchain
  obtain ⟨rest, rfl⟩ := append_of_mem_directories hmem
  rw [Option.eq_none_iff_forall_not_mem]
  intro content hcontent
  obtain ⟨place, executable, hl⟩ := fileContent?_eq_some_iff.mp hcontent
  rw [isDirectory_of_lookup_append (endsInName_of_mem_directories dir hmem) hl] at hdir
  cases hdir

private theorem fileContent?_before_directories
    (h : (files.makeChain (directories path)).1.fileContent? path = none) :
    files.fileContent? path = none := by
  rw [Option.eq_none_iff_forall_not_mem] at h ⊢
  intro content hcontent
  obtain ⟨place, executable, hl⟩ := fileContent?_eq_some_iff.mp hcontent
  have hl' := lookup_file_of_newDirectory (differsOnly_directories path files) hl
  exact h content (fileContent?_eq_some_iff.mpr ⟨place, executable, hl'⟩)

/-- A report that cannot be begun is not there, neither before nor afterwards. -/
theorem fileContent?_of_begin_error {failure : RunFailure}
    (h : ((begin path commit).outcome setting files).value = .error failure) :
    files.fileContent? path = none ∧
      ((begin path commit).outcome setting files).files.fileContent? path = none := by
  rcases outcome_begin path commit setting files with
    ⟨parent, fault, -, hmade, ho⟩ | ⟨fault, -, hwrite, ho⟩ | ⟨after, event, -, -, ho⟩
  · have hnone := fileContent?_of_refused_directory hmade
    rw [ho]
    exact ⟨fileContent?_before_directories hnone, hnone⟩
  · have hnone : (files.makeChain (directories path)).1.fileContent? path = none := by
      rw [Option.eq_none_iff_forall_not_mem]
      intro content hcontent
      obtain ⟨place, executable, hl⟩ := fileContent?_eq_some_iff.mp hcontent
      obtain ⟨after, hafter⟩ := exists_write_of_lookup_file (header commit).toUTF8 hl
      rw [hwrite] at hafter
      cases hafter
    rw [ho]
    exact ⟨fileContent?_before_directories hnone, hnone⟩
  · rw [ho] at h
    cases h

/-! ### What is there afterwards -/

/-- A report that was begun is a file with the header, or a device. -/
theorem lookup_of_begin (h : ((begin path commit).outcome setting files).value = .ok ()) :
    ∃ place node, ((begin path commit).outcome setting files).files.lookup path =
      .ok (place, node) ∧ IsWritten (header commit).toUTF8 node := by
  rcases outcome_begin path commit setting files with
    ⟨parent, fault, -, -, ho⟩ | ⟨fault, -, -, ho⟩ | ⟨after, event, -, hwrite, ho⟩
  · rw [ho] at h
    cases h
  · rw [ho] at h
    cases h
  · obtain ⟨place, node, -, hl, hw, -⟩ := write_eq_ok hwrite
    rw [ho]
    exact ⟨place, node, hl, hw⟩

/-- Beginning a report changes the report and missing directories above it, and nothing else. -/
theorem differsOnly_begin (path : RawPath) (commit : String) (setting : Setting)
    (files : FileSystem) :
    DiffersOnly (Place path files ((begin path commit).outcome setting files).files) files
      ((begin path commit).outcome setting files).files := by
  have hmade := differsOnly_directories path files
  rcases outcome_begin path commit setting files with
    ⟨parent, fault, -, -, ho⟩ | ⟨fault, -, -, ho⟩ | ⟨after, event, -, hwrite, ho⟩
  · rw [ho]
    exact hmade.mono fun place h => .inr h
  · rw [ho]
    exact hmade.mono fun place h => .inr h
  · obtain ⟨place, node, hd, hl, -⟩ := write_eq_ok hwrite
    rw [ho]
    refine DiffersOnly.trans (hmade.mono fun _ h => ?_) (hd.mono ?_)
    · exact .inr (h.widen (.refl _) hd fun _ hp => hp)
    · rintro _ rfl
      exact .inl ⟨node, hl⟩

/-- Work on a report after work on it changes no other places. -/
theorem differsOnly_trans {first second third : FileSystem}
    (h : DiffersOnly (Place path first second) first second)
    (h' : DiffersOnly (Place path second third) second third) :
    DiffersOnly (Place path first third) first third := by
  refine DiffersOnly.trans (h.mono fun place hp => ?_) (h'.mono fun place hp => ?_)
  · rcases hp with ⟨node, hl⟩ | hnew
    · obtain ⟨node', hl', -⟩ := h'.lookup hl
      exact .inl ⟨node', hl'⟩
    · exact .inr (hnew.widen (.refl _) h' fun _ hp => hp)
  · rcases hp with hl | hnew
    · exact .inl hl
    · exact .inr (hnew.widen h.grown (.refl (fun _ => False) _) fun _ hp => hp)

/-- Where a report leads to a file or a device, it can be opened for adding. -/
theorem openAppend_of_isWritten {content : ByteArray} {place : Location} {node : Node}
    (setting : Setting) (hl : files.lookup path = .ok (place, node))
    (hw : IsWritten content node) :
    (openAppend path).outcome setting files = ⟨.ok place, files, []⟩ := by
  have hopen : files.openAppend path = .ok place := by
    rw [FileSystem.openAppend, hl]
    rcases hw with ⟨executable, rfl⟩ | ⟨device, rfl⟩ <;> rfl
  rw [openAppend, Attempt.outcome_bind_ok (a := files) rfl]
  simp [hopen]

/-- A report to which pieces were added at its end holds them after what was written before. -/
theorem fileContent?_appendAll {content bytes : ByteArray} {place : Location} {node : Node}
    {pieces : List ByteArray} (hl : files.lookup path = .ok (place, node))
    (hw : IsWritten content node)
    (hb : (files.appendAll place pieces).fileContent? path = some bytes) :
    bytes = pieces.foldl (· ++ ·) content := by
  have hd := differsOnly_appendAll files place pieces
  obtain ⟨place', executable', hl'⟩ := fileContent?_eq_some_iff.mp hb
  rcases hw with ⟨executable, rfl⟩ | ⟨device, rfl⟩
  · have hat := at?_appendAll (at?_of_lookup hl) pieces
    have hfile := lookup_of_grown hd.grown hd.working hl hat
    rw [hl'] at hfile
    cases hfile
    rfl
  · obtain ⟨node', hnode, hk⟩ := hd.lookup hl
    rw [hl'] at hnode
    cases hnode
    cases hk

end LocaleRelay.Report
