import LocaleRelay.Proofs.Files.Chain
import LocaleRelay.Proofs.Report

/-!
# When a report can be begun

In files without links a report whose path is written as names is begun exactly if nothing but
directories is on the way to it and what is at the path itself can be written to. Then the
directories on the way are there, the report holds the header, and all else is as it was. Otherwise
the whole file tree is as it was, since what is in the way is met before anything is made. With
links too, a report that cannot be begun leaves every regular file as it was.
-/

namespace LocaleRelay

open Files FileSystem

/-! ### Nodes in the way -/

namespace Files

/-- A node that no path leads through: a regular file or a device. -/
def Node.Bars (node : Node) : Prop := node.isFile = true ∨ ∃ kind, node = .device kind

/-- A node that takes no header: a directory or the device that takes no byte. -/
def Node.Refuses (node : Node) : Prop := node.isDirectory = true ∨ node = .device .full

variable {fs : FileSystem} {front : List Name} {name : Name} {node : Node}
  {content : ByteArray}

private theorem Node.not_bars_iff (h : ∀ target, node ≠ .link target) :
    ¬ node.Bars ↔ node.isDirectory = true := by
  cases node with
  | directory entries => simp [Bars, isFile, isDirectory]
  | file content executable => simp [Bars, isFile, isDirectory]
  | device kind => simp [Bars, isDirectory]
  | link target => exact absurd rfl (h target)

private theorem Node.refuses_shape (node : Node) : node.shape.Refuses ↔ node.Refuses := by
  cases node <;> simp [Refuses, shape, isDirectory]

private theorem Node.refuses_congr {tree other : Node} {place place' : Location}
    (h : other.shapeAt place' = tree.shapeAt place) :
    (∀ node, other.at? place' = some node → ¬ node.Refuses) ↔
      ∀ node, tree.at? place = some node → ¬ node.Refuses := by
  have hshape : ∀ (tree : Node) (place : Location),
      (∀ node, tree.at? place = some node → ¬ node.Refuses) ↔
        ∀ shape, tree.shapeAt place = some shape → ¬ shape.Refuses := by
    intro tree place
    rw [shapeAt]
    cases tree.at? place with
    | none => simp
    | some node => simp [refuses_shape]
  rw [hshape, hshape, h]

private theorem proper_iff {first : List Name} :
    first <+: front ++ [name] ∧ first ≠ front ++ [name] ↔ first <+: front := by
  rw [List.prefix_concat_iff]
  constructor
  · rintro ⟨h, hne⟩
    exact h.resolve_left hne
  · intro h
    refine ⟨.inr h, ?_⟩
    rintro rfl
    have hlength := h.length_le
    rw [List.length_append, List.length_singleton] at hlength
    omega

private theorem FileSystem.Plain.clear_iff (hfs : fs.Plain) :
    fs.Clear front ↔ ∀ first, first <+: front ++ [name] → first ≠ front ++ [name] →
      ∀ node, fs.root.at? (fs.under first) = some node → ¬ node.Bars := by
  have hnode : ∀ first node, fs.root.at? (fs.under first) = some node →
      (¬ node.Bars ↔ node.isDirectory = true) := by
    intro first node hat
    exact Node.not_bars_iff fun target he => hfs.unlinked _ target (he ▸ hat)
  constructor
  · intro hc first hp hne node hat
    exact (hnode first node hat).mpr (hc first (proper_iff.mp ⟨hp, hne⟩) node hat)
  · intro hno first hp node hat
    obtain ⟨hp', hne⟩ := proper_iff.mpr hp
    exact (hnode first node hat).mp (hno first hp' hne node hat)

/-- Whether a header can be written in a directory depends on what is there. -/
theorem FileSystem.Plain.write_names_iff (hfs : fs.Plain) (h : Path.AreNames (front ++ [name]))
    (hfront : ∃ entries, fs.root.at? (fs.under front) = some (.directory entries))
    (hc : content.isEmpty = false) :
    (∃ after, fs.write (Path.ofNames (front ++ [name])) content = .ok after) ↔
      ∀ node, fs.root.at? (fs.under (front ++ [name])) = some node → ¬ node.Refuses := by
  obtain ⟨entries, hfront⟩ := hfront
  rw [write, locate_names h (by simp)]
  cases hat : fs.root.at? (fs.under (front ++ [name])) with
  | none => simp [walk_vacant h.each hfront hat]
  | some node =>
    rw [walk_found hfs h.each (by simp) hat]
    cases node with
    | file old executable => simp [emptied, appended, Except.map, Node.Refuses, Node.isDirectory]
    | directory inner => simp [emptied, appended, Except.map, Node.Refuses, Node.isDirectory]
    | link target => exact absurd hat (hfs.unlinked _ _)
    | device kind =>
      cases kind <;> simp [emptied, appended, Except.map, Node.Refuses, Node.isDirectory, hc]

end Files

namespace Report

variable {names front : List Name} {name : Name} {commit : String} {setting : Setting}
  {files after : FileSystem}

/-! ### Paths of names -/

/-- What beginning a report does to files without links where its path is written with names. It
succeeds exactly if nothing on the way bars it and nothing at the path refuses it. Then everything
on the way is a directory, and every other place keeps its shape unless it was missing and is on the
way. If it fails, the failure names the path or its parent, and the files are what they were. -/
structure Begins (names : List Name) (commit : String) (before : FileSystem)
    (outcome : Outcome (Except RunFailure Unit)) : Prop where
  succeeds_iff : outcome.value = .ok () ↔
    (∀ front, front <+: names → front ≠ names →
      ∀ node, before.root.at? (before.under front) = some node → ¬ node.Bars) ∧
    ∀ node, before.root.at? (before.under names) = some node → ¬ node.Refuses
  directories : outcome.value = .ok () → ∀ front, front <+: names → front ≠ names →
    ∃ entries, outcome.files.root.at? (before.under front) = some (.directory entries)
  written : outcome.value = .ok () →
    ∃ node, outcome.files.root.at? (before.under names) = some node ∧
      IsWritten (header commit).toUTF8 node ∧
      ∀ kind, node = .device kind →
        before.root.at? (before.under names) = some (.device kind)
  keeps : outcome.value = .ok () → ∀ place, place ≠ before.under names →
    outcome.files.root.shapeAt place = before.root.shapeAt place ∨
      before.root.at? place = none ∧
        ∃ front, front <+: names ∧ front ≠ names ∧ place = before.under front
  failed : ∀ failure, outcome.value = .error failure → outcome.files = before ∧
    ∃ fault, failure = .write (Path.ofNames names) fault ∨
      names.dropLast ≠ [] ∧ failure = .write (Path.ofNames names.dropLast) fault

private theorem directories_names (h : Path.AreNames (front ++ [name])) :
    directories (Path.ofNames (front ++ [name])) = Path.chain front := by
  rw [directories, Path.namedParent?_ofNames_concat h.of_append.each (h.each name (by simp)),
    Path.chain]
  by_cases hempty : Path.ofNames front = []
  · rw [hempty]
    rfl
  · simp [Option.filter, hempty]

private theorem isEmpty_header (commit : String) : (header commit).toUTF8.isEmpty = false := by
  have hsize : (header commit).toUTF8.size ≠ 0 := by
    simp [header, label]
  simpa [ByteArray.isEmpty] using hsize

private theorem outcome_begin_barred (hfs : files.Plain) (h : Path.AreNames (front ++ [name]))
    (hc : ¬ files.Clear front) (commit : String) (setting : Setting) :
    ∃ fault, front ≠ [] ∧ (begin (Path.ofNames (front ++ [name])) commit).outcome setting files =
      ⟨.error (.write (Path.ofNames front) fault), files, []⟩ := by
  obtain ⟨fault, hchain⟩ := hfs.makeChain_blocked h.of_append hc
  rw [← directories_names h] at hchain
  rcases outcome_begin (Path.ofNames (front ++ [name])) commit setting files with
    ⟨parent, fault, hparent, -, ho⟩ | ⟨-, hmade, -⟩ | ⟨-, -, hmade, -⟩
  · rw [Path.namedParent?_ofNames_concat h.of_append.each (h.each name (by simp)),
      Option.filter_eq_some_iff] at hparent
    obtain ⟨hparent, hne⟩ := hparent
    obtain rfl := Option.some.inj hparent
    refine ⟨fault, ?_, by rw [ho, hchain]⟩
    rintro rfl
    cases hne
  · rw [hchain] at hmade
    cases hmade
  · rw [hchain] at hmade
    cases hmade

private theorem outcome_begin_clear (hfs : files.Plain) (h : Path.AreNames (front ++ [name]))
    (hc : files.Clear front) (commit : String) (setting : Setting) :
    ∃ made, Made front files made ∧
      ((∃ fault, made.write (Path.ofNames (front ++ [name])) (header commit).toUTF8 =
          .error fault ∧
        (begin (Path.ofNames (front ++ [name])) commit).outcome setting files =
          ⟨.error (.write (Path.ofNames (front ++ [name])) fault), made, []⟩) ∨
      ∃ after event, made.write (Path.ofNames (front ++ [name])) (header commit).toUTF8 =
          .ok after ∧
        (begin (Path.ofNames (front ++ [name])) commit).outcome setting files =
          ⟨.ok (), after, [.event event]⟩) := by
  obtain ⟨made, hchain, hmade⟩ := hfs.makeChain_clear h.of_append hc
  rw [← directories_names h] at hchain
  refine ⟨made, hmade, ?_⟩
  rcases outcome_begin (Path.ofNames (front ++ [name])) commit setting files with
    ⟨parent, fault, -, hrefused, -⟩ | ⟨fault, -, hwrite, ho⟩ | ⟨after, event, -, hwrite, ho⟩
  · rw [hchain] at hrefused
    cases hrefused
  · rw [hchain] at hwrite ho
    exact .inl ⟨fault, hwrite, ho⟩
  · rw [hchain] at hwrite
    exact .inr ⟨after, event, hwrite, ho⟩

private theorem eq_of_write_error (hmade : Made front files after)
    (h : Path.AreNames (front ++ [name])) {fault : Fault}
    (hw : after.write (Path.ofNames (front ++ [name])) (header commit).toUTF8 =
      .error fault) :
    after = files ∧
      ∃ node, files.root.at? (files.under (front ++ [name])) = some node ∧ node.Refuses := by
  have hno : ¬ ∀ node, after.root.at? (after.under (front ++ [name])) = some node →
      ¬ node.Refuses := by
    rw [← hmade.plain.write_names_iff h (under_eq hmade.working front ▸ hmade.directory)
      (isEmpty_header commit)]
    rintro ⟨written, hok⟩
    rw [hw] at hok
    cases hok
  rw [Node.refuses_congr (hmade.shapeAt_concat name)] at hno
  obtain ⟨node, hat, hrefuses⟩ := by simpa using hno
  -- what refuses the header was there before, and so was its directory: none had to be made
  obtain ⟨entries, hfront⟩ := exists_directory_of_proper (List.prefix_append _ _) (by simp) hat
  exact ⟨hmade.idle _ hfront, node, hat, hrefuses⟩

private theorem written_of_write {made : FileSystem} (hmade : Made front files made)
    (h : Path.AreNames (front ++ [name])) {content : ByteArray}
    (hw : made.write (Path.ofNames (front ++ [name])) content = .ok after) :
    after.working = files.working ∧
      (∃ node, after.root.at? (files.under (front ++ [name])) = some node ∧
        IsWritten content node ∧ ∀ kind, node = .device kind →
          files.root.at? (files.under (front ++ [name])) = some (.device kind)) ∧
      ∀ place, place ≠ files.under (front ++ [name]) →
        after.root.shapeAt place = made.root.shapeAt place := by
  obtain ⟨place, node, hd, hl, hnode, hdevice⟩ := write_eq_ok hw
  have hworking := hd.working.trans hmade.working
  have hafter : after.Plain := by
    refine hmade.plain.of_differsOnly hd ?_
    rintro _ target rfl hlink
    rw [at?_of_lookup hl] at hlink
    rcases hnode with ⟨executable, rfl⟩ | ⟨kind, rfl⟩ <;> cases hlink
  obtain ⟨hplace, hat⟩ := (hafter.lookup_names h (by simp)).mp hl
  rw [under_eq hworking] at hplace
  subst hplace
  refine ⟨hworking, ⟨node, hat, hnode, fun kind hkind => ?_⟩, hd.shapeAt⟩
  rw [← Node.shapeAt_eq_some_iff rfl, ← hmade.shapeAt_concat, under_eq hmade.working,
    Node.shapeAt_eq_some_iff rfl]
  exact hdevice kind hkind

private theorem Begins.of_error {before : FileSystem} {outcome : Outcome (Except RunFailure Unit)}
    {failure : RunFailure} (hvalue : outcome.value = .error failure)
    (hno : ¬ ((∀ front, front <+: names → front ≠ names →
        ∀ node, before.root.at? (before.under front) = some node → ¬ node.Bars) ∧
      ∀ node, before.root.at? (before.under names) = some node → ¬ node.Refuses))
    (hfiles : outcome.files = before)
    (hfailure : ∃ fault, failure = .write (Path.ofNames names) fault ∨
      names.dropLast ≠ [] ∧ failure = .write (Path.ofNames names.dropLast) fault) :
    Begins names commit before outcome := by
  have hnot : outcome.value ≠ .ok () := by simp [hvalue]
  refine ⟨iff_of_false hnot hno, fun h => absurd h hnot, fun h => absurd h hnot,
    fun h => absurd h hnot, fun other h => ⟨hfiles, ?_⟩⟩
  rw [hvalue] at h
  cases h
  exact hfailure

private theorem begins_names (hfs : files.Plain) (h : Path.AreNames (front ++ [name]))
    (commit : String) (setting : Setting) :
    Begins (front ++ [name]) commit files
      ((begin (Path.ofNames (front ++ [name])) commit).outcome setting files) := by
  by_cases hc : files.Clear front
  · obtain ⟨made, hmade, ⟨fault, hw, ho⟩ | ⟨after, event, hw, ho⟩⟩ :=
      outcome_begin_clear hfs h hc commit setting
    · obtain ⟨hsame, node, hat, hrefuses⟩ := eq_of_write_error hmade h hw
      rw [ho]
      exact .of_error rfl (fun hyes => hyes.2 node hat hrefuses) hsame ⟨fault, .inl rfl⟩
    · obtain ⟨hworking, ⟨node, hat, hnode, hdevice⟩, hkeeps⟩ := written_of_write hmade h hw
      rw [ho]
      refine ⟨iff_of_true rfl ⟨hfs.clear_iff.mp hc, ?_⟩, fun _ => ?_, fun _ => ?_, fun _ => ?_, ?_⟩
      · rw [← Node.refuses_congr (hmade.shapeAt_concat name), ← hmade.plain.write_names_iff h
          (under_eq hmade.working front ▸ hmade.directory) (isEmpty_header commit)]
        exact ⟨after, hw⟩
      · intro first hp hne
        rw [← under_eq hworking] at hat ⊢
        exact exists_directory_of_proper hp hne hat
      · exact ⟨node, hat, hnode, hdevice⟩
      · intro place hplace
        dsimp only
        rw [hkeeps place hplace]
        rcases hmade.keeps place with hs | ⟨hnone, first, hp, hunder⟩
        · exact .inl hs
        · obtain ⟨hp', hne⟩ := proper_iff.mpr hp
          exact .inr ⟨hnone, first, hp', hne, hunder⟩
      · intro failure hvalue
        cases hvalue
  · obtain ⟨fault, hne, ho⟩ := outcome_begin_barred hfs h hc commit setting
    rw [ho]
    refine .of_error rfl (fun hyes => hc (hfs.clear_iff.mpr hyes.1)) rfl ⟨fault, .inr ?_⟩
    rw [List.dropLast_concat]
    exact ⟨hne, rfl⟩

/-! ### All files -/

private theorem at?_file_of_begin_error {path : RawPath} {failure : RunFailure}
    (h : ((begin path commit).outcome setting files).value = .error failure) (place : Location)
    (content : ByteArray) (executable : Bool) :
    ((begin path commit).outcome setting files).files.root.at? place =
        some (.file content executable) ↔
      files.root.at? place = some (.file content executable) := by
  have hmade : ((begin path commit).outcome setting files).files =
      (files.makeChain (directories path)).1 := by
    rcases outcome_begin path commit setting files with
      ⟨parent, fault, -, -, ho⟩ | ⟨fault, -, -, ho⟩ | ⟨after, event, -, -, ho⟩
    · rw [ho]
    · rw [ho]
    · rw [ho] at h
      cases h
  rw [hmade]
  by_cases hnew : NewDirectory (directories path) files (files.makeChain (directories path)).1 place
  · obtain ⟨hvacant, other, -, entries, hl⟩ := hnew
    rw [at?_of_lookup hl, hvacant]
    simp
  · exact (differsOnly_directories path files).at?_eq_some_iff hnew rfl

/-- In files without links a report at a path of names is begun or nothing is changed at all, and in
all files a report that cannot be begun leaves every regular file as it was. -/
theorem begins_along_names (commit : String) (setting : Setting) (files : FileSystem) :
    (∀ path failure, ((begin path commit).outcome setting files).value = .error failure →
      ∀ place content executable,
        ((begin path commit).outcome setting files).files.root.at? place =
            some (.file content executable) ↔
          files.root.at? place = some (.file content executable)) ∧
    ∀ names, names ≠ [] → Path.AreNames names → files.Plain →
      Begins names commit files ((begin (Path.ofNames names) commit).outcome setting files) := by
  constructor
  · intro path failure h
    exact at?_file_of_begin_error h
  · intro names hn h hfs
    obtain ⟨front, name, rfl⟩ := (List.eq_nil_or_concat names).resolve_left hn
    rw [List.concat_eq_append] at h ⊢
    exact begins_names hfs h commit setting

/-- A report in a directory that is missing, one below a regular file, and one below a link that
leads nowhere. -/
theorem begins_along_names_media :
    let setting : Setting := ⟨some (utf8 "/home"), .empty, fun _ => 4096⟩
    let files : FileSystem := ⟨.directory [(utf8 "work", .directory
      [(utf8 "media", .directory
        [(utf8 "old", .file "log".toUTF8 false)])])], [utf8 "work"]⟩
    let linked : FileSystem := ⟨.directory [(utf8 "old", .file "log".toUTF8 false),
      (utf8 "media", .link (utf8 "gone"))], []⟩
    let missing := ["media", "new", "status"].map utf8
    let barred := ["media", "old", "status"].map utf8
    files.Plain ∧ Path.AreNames missing ∧ Path.AreNames barred ∧
      (∃ executable, ((begin (Path.ofNames missing) "4f1c").outcome setting files).files.root.at?
        (files.under missing) = some (.file (header "4f1c").toUTF8 executable)) ∧
      ((begin (Path.ofNames barred) "4f1c").outcome setting files).files = files ∧
      ((begin (utf8 "media/status") "4f1c").outcome setting linked).value =
        .error (.write (utf8 "media") .alreadyExists) ∧
      ((begin (utf8 "media/status") "4f1c").outcome setting linked).files.root.at? [utf8 "old"] =
        some (.file "log".toUTF8 false) := by
  intro setting files linked missing barred
  have hfs : files.Plain := by
    have hworking : (files.root.at? files.working).any Node.isDirectory = true := by decide +kernel
    obtain ⟨node, hat, hdir⟩ := (Option.any_eq_true _ _).mp hworking
    obtain ⟨entries, rfl⟩ := Node.isDirectory_iff.mp hdir
    refine ⟨?_, entries, hat⟩
    refine Node.unlinked_directory (List.forall_mem_singleton.mpr ?_)
    refine Node.unlinked_directory (List.forall_mem_singleton.mpr ?_)
    refine Node.unlinked_directory (List.forall_mem_singleton.mpr ?_)
    exact Node.unlinked_file _ _
  have hmissing : Path.AreNames missing := by decide +kernel
  have hbarred : Path.AreNames barred := by decide +kernel
  have hbegins := (begins_along_names "4f1c" setting files).2
  have hlinked : ((begin (utf8 "media/status") "4f1c").outcome setting linked).value =
      .error (.write (utf8 "media") .alreadyExists) := by
    decide +kernel
  refine ⟨hfs, hmissing, hbarred, ?_, ?_, hlinked, ?_⟩
  · have hspec := hbegins missing (by simp [missing]) hmissing hfs
    have hok : ((begin (Path.ofNames missing) "4f1c").outcome setting files).value = .ok () := by
      decide +kernel
    obtain ⟨node, hat, hnode, hdevice⟩ := hspec.written hok
    rcases hnode with ⟨executable, rfl⟩ | ⟨kind, rfl⟩
    · exact ⟨executable, hat⟩
    · have hvacant : (files.root.at? (files.under missing)).isNone = true := by decide +kernel
      rw [hdevice kind rfl] at hvacant
      cases hvacant
  · have hspec := hbegins barred (by simp [barred]) hbarred hfs
    cases hvalue : ((begin (Path.ofNames barred) "4f1c").outcome setting files).value with
    | error failure => exact (hspec.failed failure hvalue).1
    | ok _ =>
      have hold :
          (files.root.at? (files.under (["media", "old"].map utf8))).any Node.isFile = true := by
        decide +kernel
      obtain ⟨node, hat, hfile⟩ := (Option.any_eq_true _ _).mp hold
      have hclear := (hspec.succeeds_iff.mp hvalue).1 (["media", "old"].map utf8)
        (by decide +kernel) (by decide +kernel)
      exact absurd (.inl hfile) (hclear node hat)
  · refine ((begins_along_names "4f1c" setting linked).1 _ _ hlinked _ _ _).mpr ?_
    simp [linked, Node.at?_cons, Node.child?, Entries.find?]

end Report

end LocaleRelay
