import LocaleRelay.Proofs.Report
import Mathlib.Control.Monad.Basic

/-!
# The text of a report under edits

A report is begun and added to in any order, with any words. Seen from outside there is no report or
there is one with a text: beginning it sets the text to the header, adding words puts them after the
text, and an edit that fails leaves what was there. So the text of a report that was begun is the
header and what was added since, and the line with the commit is out of reach of the words that are
added.
-/

namespace LocaleRelay.Report

open Files FileSystem

/-! ### Edits -/

/-- Open a report and add words at its end. -/
def add (path : RawPath) (words : String) : Attempt RunFailure Unit := do
  let place ← openAppend path
  (appendTo place words.toUTF8).mapFailure (refuse path)

/-- Something that is done to a report: to begin it with a commit, or to add words at its end. -/
inductive Edit where
  | begin (commit : String)
  | add (words : String)
  deriving Repr, DecidableEq

/-- Do an edit to the report with a path. -/
def Edit.attempt (path : RawPath) : Edit → Attempt RunFailure Unit
  | begin commit => Report.begin path commit
  | add words => Report.add path words

/-- The results of edits in a row. -/
def results (path : RawPath) (setting : Setting) :
    List Edit → FileSystem → List (Except RunFailure Unit)
  | [], _ => []
  | edit :: rest, files =>
    let outcome := (edit.attempt path).outcome setting files
    outcome.value :: results path setting rest outcome.files

/-- The files after edits in a row. -/
def revised (path : RawPath) (setting : Setting) : List Edit → FileSystem → FileSystem
  | [], files => files
  | edit :: rest, files =>
    revised path setting rest ((edit.attempt path).outcome setting files).files

/-! ### Reports as texts -/

/-- The text of a report, as bytes, if there is one. -/
def text? (path : RawPath) (files : FileSystem) : Option ByteArray :=
  files.fileContent? path

/-- The commit that a report names, if it can be read and names one. -/
def recorded? (path : RawPath) (files : FileSystem) : Option String :=
  (files.readText path).toOption.bind recordedCommit?

/-- What an edit makes of the text of a report, by its result. A report that is begun holds the
header, whatever it held. An edit fails only where there is no report, and makes none then. -/
inductive Revises : Edit → Option ByteArray → Except RunFailure Unit → Option ByteArray → Prop
  | begun {commit : String} {text : Option ByteArray} :
      Revises (.begin commit) text (.ok ()) (some (header commit).toUTF8)
  | added {words : String} {text : ByteArray} :
      Revises (.add words) (some text) (.ok ()) (some (text ++ words.toUTF8))
  | refused {edit : Edit} {failure : RunFailure} : Revises edit none (.error failure) none

/-- What edits in a row make of the text of a report, by their results. -/
inductive RevisesInTurn :
    List Edit → Option ByteArray → List (Except RunFailure Unit) → Option ByteArray → Prop
  | nil {text : Option ByteArray} : RevisesInTurn [] text [] text
  | cons {edit : Edit} {rest : List Edit} {before between after : Option ByteArray}
    {result : Except RunFailure Unit} {results : List (Except RunFailure Unit)}
    (h : Revises edit before result between) (hr : RevisesInTurn rest between results after) :
    RevisesInTurn (edit :: rest) before (result :: results) after

/-- Words that are added to a text all follow it, in their order. -/
theorem RevisesInTurn.eq_of_add {words : List String} {text : ByteArray}
    {after : Option ByteArray} {results : List (Except RunFailure Unit)}
    (h : RevisesInTurn (words.map .add) (some text) results after) :
    (∀ result ∈ results, result = .ok ()) ∧
      after = some (text ++ (String.join words).toUTF8) := by
  induction words generalizing text results with
  | nil =>
    cases h
    exact ⟨by simp, by rw [String.join_nil]; simp⟩
  | cons word words ih =>
    cases h with
    | cons h hr =>
      cases h with
      | added =>
        obtain ⟨hresults, hafter⟩ := ih hr
        refine ⟨List.forall_mem_cons.mpr ⟨rfl, hresults⟩, ?_⟩
        rw [hafter, String.join_cons, ByteArray.append_assoc]
        rfl

/-! ### What one edit does -/

variable {path : RawPath} {setting : Setting} {files : FileSystem}

/-- Adding words opens the report and adds them there; if either is refused nothing changes. -/
theorem outcome_add (path : RawPath) (words : String) (setting : Setting) (files : FileSystem) :
    (add path words).outcome setting files =
      match (files.openAppend path).bind (files.append · words.toUTF8) with
      | .ok after => ⟨.ok (), after, []⟩
      | .error fault => ⟨.error (refuse path fault), files, []⟩ := by
  have hopen : (openAppend path).outcome setting files =
      ⟨(files.openAppend path).mapError (refuse path), files, []⟩ := by
    rw [openAppend, Attempt.outcome_bind_ok (a := files) rfl]
    cases files.openAppend path <;> rfl
  cases h : files.openAppend path with
  | error fault =>
    rw [h] at hopen
    rw [add, Attempt.outcome_bind_error (by rw [hopen]; rfl), hopen]
    rfl
  | ok place =>
    rw [h] at hopen
    rw [add, Attempt.outcome_bind_ok (by rw [hopen]; rfl), hopen, Attempt.outcome_mapFailure,
      appendTo, Attempt.outcome_change]
    cases happend : files.append place words.toUTF8 with
    | error fault =>
      simp only [Except.bind, happend]
      rfl
    | ok after =>
      simp only [Except.bind, happend]
      rfl

/-- Words can be added to every report that is there. -/
theorem outcome_add_of_some {text : ByteArray} (h : text? path files = some text)
    (setting : Setting) (words : String) :
    ∃ after, (add path words).outcome setting files = ⟨.ok (), after, []⟩ ∧
      text? path after = some (text ++ words.toUTF8) ∧ (after.HasDevice → files.HasDevice) := by
  obtain ⟨place, executable, hl⟩ := fileContent?_eq_some_iff.mp h
  obtain ⟨after, happend, hat⟩ := append_file (at?_of_lookup hl) words.toUTF8
  have hdiffers := append_eq_ok happend
  refine ⟨after, ?_, ?_, fun hd => hd.of_differsOnly hdiffers ?_⟩
  · have hopen : files.openAppend path = .ok place := by
      rw [FileSystem.openAppend, hl]
    rw [outcome_add, hopen, Except.bind, happend]
  · exact fileContent?_eq_some_iff.mpr
      ⟨place, executable, lookup_of_grown hdiffers.grown hdiffers.working hl hat⟩
  · rintro _ device rfl hdevice
    rw [hat] at hdevice
    cases hdevice

/-- Words cannot be added where no report is, and trying changes nothing. -/
theorem outcome_add_of_none (h : text? path files = none) (hd : ¬ files.HasDevice)
    (setting : Setting) (words : String) :
    ∃ failure, (add path words).outcome setting files = ⟨.error failure, files, []⟩ := by
  have hrefused : ∃ fault, (files.openAppend path).bind
      (files.append · words.toUTF8) = .error fault := by
    rw [FileSystem.openAppend]
    cases hl : files.lookup path with
    | error fault => exact ⟨fault, rfl⟩
    | ok found =>
      obtain ⟨place, node⟩ := found
      have hat := at?_of_lookup hl
      cases node with
      | directory entries => exact ⟨.isDirectory, rfl⟩
      | link target => exact ⟨.tooManyLinks, by simp only [Except.bind, append, hat]; rfl⟩
      | device device => exact absurd ⟨place, device, hat⟩ hd
      | file content executable =>
        rw [text?, fileContent?_eq_some_iff.mpr ⟨place, executable, hl⟩] at h
        cases h
  obtain ⟨fault, hrefused⟩ := hrefused
  exact ⟨refuse path fault, by rw [outcome_add, hrefused]⟩

/-- Beginning a report makes no device. -/
theorem hasDevice_of_begin {commit : String}
    (h : ((begin path commit).outcome setting files).files.HasDevice) : files.HasDevice := by
  have hdirectories := differsOnly_directories path files
  rcases outcome_begin path commit setting files with
    ⟨parent, fault, -, -, ho⟩ | ⟨fault, -, -, ho⟩ | ⟨after, event, -, hwrite, ho⟩
  · rw [ho] at h
    exact h.of_newDirectory hdirectories
  · rw [ho] at h
    exact h.of_newDirectory hdirectories
  · rw [ho] at h
    exact (h.of_write hwrite).of_newDirectory hdirectories

/-- Without devices a report that was begun holds the header. -/
theorem text?_of_begin {commit : String} (hd : ¬ files.HasDevice)
    (h : ((begin path commit).outcome setting files).value = .ok ()) :
    text? path ((begin path commit).outcome setting files).files =
      some (header commit).toUTF8 := by
  obtain ⟨place, node, hl, hw⟩ := lookup_of_begin h
  rcases hw with ⟨executable, rfl⟩ | ⟨device, rfl⟩
  · exact fileContent?_eq_some_iff.mpr ⟨place, executable, hl⟩
  · exact absurd (hasDevice_of_begin ⟨place, device, at?_of_lookup hl⟩) hd

/-- An edit does to the text of a report what it should, and makes no device. -/
theorem revises_attempt (edit : Edit) (hd : ¬ files.HasDevice) (setting : Setting) :
    let outcome := (edit.attempt path).outcome setting files
    Revises edit (text? path files) outcome.value (text? path outcome.files) ∧
      ¬ outcome.files.HasDevice := by
  cases edit with
  | begin commit =>
    refine ⟨?_, fun h => hd (hasDevice_of_begin h)⟩
    show Revises _ _ ((begin path commit).outcome setting files).value
      (text? path ((begin path commit).outcome setting files).files)
    cases hv : ((begin path commit).outcome setting files).value with
    | ok _ =>
      rw [text?_of_begin hd hv]
      exact .begun
    | error failure =>
      obtain ⟨hbefore, hafter⟩ := fileContent?_of_begin_error hv
      rw [text?, text?, hbefore, hafter]
      exact .refused
  | add words =>
    show Revises _ _ ((add path words).outcome setting files).value
      (text? path ((add path words).outcome setting files).files) ∧
        ¬ ((add path words).outcome setting files).files.HasDevice
    cases ht : text? path files with
    | some text =>
      obtain ⟨after, ho, htext, hdevice⟩ := outcome_add_of_some ht setting words
      rw [ho, htext]
      exact ⟨.added, fun h => hd (hdevice h)⟩
    | none =>
      obtain ⟨failure, ho⟩ := outcome_add_of_none ht hd setting words
      rw [ho, ht]
      exact ⟨.refused, hd⟩

/-! ### What edits in a row do -/

/-- Edits in a row do to the text of a report what they should, one after the other. -/
theorem revisesInTurn_results (path : RawPath) (edits : List Edit) (hd : ¬ files.HasDevice)
    (setting : Setting) :
    RevisesInTurn edits (text? path files) (results path setting edits files)
      (text? path (revised path setting edits files)) ∧
        ¬ (revised path setting edits files).HasDevice := by
  induction edits generalizing files with
  | nil => exact ⟨.nil, hd⟩
  | cons edit rest ih =>
    obtain ⟨hedit, hbetween⟩ := revises_attempt edit hd setting
    obtain ⟨hrest, hafter⟩ := ih hbetween
    exact ⟨.cons hedit hrest, hafter⟩

/-- The commit that a report names is in its first line, which the header ends. -/
theorem recordedCommit?_append (commit more : String) :
    recordedCommit? (header commit ++ more) = recordedCommit? (header commit) := by
  have hended : '\n' ∈ (header commit).toList := by simp [header]
  rw [recordedCommit?, recordedCommit?, String.toList_append, Text.firstLine_append hended]

/-- A report whose bytes are those of a text can be read. -/
theorem readText_of_text? {text : String} (h : text? path files = some text.toUTF8) :
    files.readText path = .ok text := by
  obtain ⟨place, executable, hl⟩ := fileContent?_eq_some_iff.mp h
  have hdecoded : String.fromUTF8? text.toUTF8 = some text := dif_pos text.isValidUTF8
  simp only [readText, FileSystem.read, hl, hdecoded]

/-- What edits in a row make of the text of a report, and what is true after them. Where no report
is, words cannot be added, and trying changes nothing. A report that is begun then holds the header
and all words that are added, and names the commit that the header names. -/
structure KeepsText (path : RawPath) (setting : Setting) (edits : List Edit) (files : FileSystem) :
    Prop where
  revises : RevisesInTurn edits (text? path files) (results path setting edits files)
    (text? path (revised path setting edits files))
  absent : text? path (revised path setting edits files) = none → ∀ words, ∃ failure,
    (add path words).outcome setting (revised path setting edits files) =
      ⟨.error failure, revised path setting edits files, []⟩
  begun : ∀ commit,
    ((begin path commit).outcome setting (revised path setting edits files)).value = .ok () →
    ∀ words : List String,
      let begun := ((begin path commit).outcome setting (revised path setting edits files)).files
      let after := revised path setting (words.map .add) begun
      (∀ result ∈ results path setting (words.map .add) begun, result = .ok ()) ∧
        after.readText path = .ok (header commit ++ String.join words) ∧
        recorded? path after = recordedCommit? (header commit)

/-- Without devices a report is kept as a text, whatever edits are made, in any order. -/
theorem keepsText_of_edits (path : RawPath) (setting : Setting) (edits : List Edit)
    (files : FileSystem) (hd : ¬ files.HasDevice) : KeepsText path setting edits files := by
  obtain ⟨hrevises, hnow⟩ := revisesInTurn_results path edits hd setting
  refine ⟨hrevises, fun hnone words => outcome_add_of_none hnone hnow setting words, ?_⟩
  intro commit hbegin words begun after
  have hbegun : ¬ begun.HasDevice := fun h => hnow (hasDevice_of_begin h)
  have htext : text? path begun = some (header commit).toUTF8 := text?_of_begin hnow hbegin
  obtain ⟨hadds, -⟩ := revisesInTurn_results path (words.map .add) hbegun setting
  rw [htext] at hadds
  obtain ⟨hresults, hafter⟩ := hadds.eq_of_add
  have hread : after.readText path = .ok (header commit ++ String.join words) := by
    apply readText_of_text?
    rw [hafter]
    rfl
  refine ⟨hresults, hread, ?_⟩
  rw [recorded?, hread]
  exact recordedCommit?_append commit (String.join words)

/-- A report behind a link, to which words are added before it is begun anew. The words that are
added then look like a first line. -/
theorem keepsText_behind_link :
    let files : FileSystem :=
      ⟨.directory [(utf8 "postatus.txt", .link (utf8 "store/report")),
        (utf8 "store", .directory [(utf8 "report", .file "stale".toUTF8 false)])],
        []⟩
    let edits : List Edit := [.add " words\n", .begin "4f1c", .add "l10n git hash: forged\n"]
    let setting : Setting := ⟨some (utf8 "/home/relay"), ⟨[]⟩, fun _ => 4096⟩
    ¬ files.HasDevice ∧ KeepsText (utf8 "postatus.txt") setting edits files ∧
      results (utf8 "postatus.txt") setting edits files = [.ok (), .ok (), .ok ()] := by
  intro files edits setting
  have hdevice : ¬ files.HasDevice := by
    rintro ⟨place, device, hat⟩
    cases place with
    | nil => cases hat
    | cons first more =>
      simp only [files, Node.at?_cons, Node.child?, Entries.find?] at hat
      split at hat
      · cases more <;> cases hat
      · split at hat
        · cases more with
          | nil => cases hat
          | cons second more =>
            simp only [Option.bind_some, Node.at?_cons, Node.child?, Entries.find?] at hat
            split at hat
            · cases more <;> cases hat
            · cases hat
        · cases hat
  exact ⟨hdevice, keepsText_of_edits _ _ edits files hdevice, by decide +kernel⟩

end LocaleRelay.Report
