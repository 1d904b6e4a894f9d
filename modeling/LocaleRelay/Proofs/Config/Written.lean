import LocaleRelay.Config.Load
import LocaleRelay.Proofs.Config.Fields

/-!
# Which files write a configuration

A file writes a configuration if its document is empty or a mapping of known names, none given
twice, each with a content of its kind. The configuration then has every value that is given and
keeps the built-in value of every field that is not, and the same holds of the lint command in it.
The order of the pairs does not matter, neither of the document nor of the lint command.
-/

namespace LocaleRelay

open Files Yaml

/-! ### Lint commands -/

namespace LintConfig

/-- Pairs that write a lint command. -/
structure WellFormed (pairs : List (Content × Content)) : Prop where
  named : Named ["program", "args", "dir"] pairs
  program : Readable Content.text? "program" pairs
  args : Readable Content.texts? "args" pairs
  dir : Readable Content.text? "dir" pairs

/-- A lint command with what pairs give. -/
def overlaid (lint : LintConfig) (pairs : List (Content × Content)) : LintConfig where
  program := readOr Content.text? "program" pairs lint.program
  args := readOr Content.texts? "args" pairs lint.args
  dir := readOr Content.path? "dir" pairs lint.dir

variable {pairs other : List (Content × Content)}

/-- The lint command that pairs write does not depend on their order. -/
theorem overlaid_reordered (h : Reordered pairs other) (hw : WellFormed pairs)
    (lint : LintConfig) : lint.overlaid pairs = lint.overlaid other := by
  have hgiven := h.rel_given hw.named.once
  rw [overlaid, overlaid, readOr_eq (hgiven "program") fun _ hr => hr.text?_eq,
    readOr_eq (hgiven "args") fun _ hr => hr.texts?_eq,
    readOr_eq (hgiven "dir") fun _ hr => hr.path?_eq]

end LintConfig

namespace Decode

/-- What the fields of a lint command can be set to. -/
def LintField.Accepts : LintField → Content → Prop
  | .program, content | .dir, content => ∃ words, content.text? = some words
  | .args, content => ∃ words, content.texts? = some words

/-- How a lint command is read. -/
theorem reads_lintSchema : lintSchema.Reads LintField.Accepts LintConfig.overlaid where
  name_injective first second h := by
    cases first <;> cases second <;> first | rfl | simp [lintSchema] at h
  complete field := by cases field <;> simp [lintSchema]
  assign_eq_ok_iff := by
    intro document path field tree key content lint changed hs hkey
    simp only [lintSchema] at hkey ⊢
    cases field with
    | args =>
      cases hread : content.texts? <;>
        simp [LintField.Accepts, bind_eq_ok_iff, texts_eq_ok_iff hs, hread, hkey,
          LintConfig.overlaid, readOr_cons, readOr_nil, pure, Except.pure]
    | _ =>
      cases hread : content.text? <;>
        simp [LintField.Accepts, bind_eq_ok_iff, text_eq_ok_iff hs, Content.path?, hread, hkey,
          LintConfig.overlaid, readOr_cons, readOr_nil, pure, Except.pure]
  overlay_nil lint := rfl
  overlay_cons h := by simp only [LintConfig.overlaid, readOr_readOr _ _ h]

/-- Pairs are admitted for a lint command if they write one. -/
theorem admits_lintSchema_iff {pairs : List (Content × Content)} :
    lintSchema.Admits LintField.Accepts [] pairs ↔ LintConfig.WellFormed pairs := by
  constructor
  · intro h
    exact ⟨h.named, h.accepted .program, h.accepted .args, h.accepted .dir⟩
  · intro h
    refine ⟨h.named, by simp, fun field => ?_⟩
    cases field with
    | program => exact h.program
    | args => exact h.args
    | dir => exact h.dir

/-- Whether pairs write a lint command does not depend on their order. -/
theorem lintWellFormed_reordered {pairs other : List (Content × Content)}
    (h : Reordered pairs other) : LintConfig.WellFormed pairs ↔ LintConfig.WellFormed other := by
  rw [← admits_lintSchema_iff, ← admits_lintSchema_iff]
  refine Schema.admits_reordered h fun {field content new} hr => ?_
  cases field with
  | args => rw [LintField.Accepts, LintField.Accepts, hr.texts?_eq]
  | _ => rw [LintField.Accepts, LintField.Accepts, hr.text?_eq]

/-- A lint command is read from pairs that write one; what they do not give is built in. -/
theorem lint_eq_ok_iff {document : Document} {path : NodePath} {tree : Tree} {content : Content}
    (hs : tree.Says content) {result : LintConfig} :
    lint document path tree = .ok result ↔ ∃ pairs, content.pairs? = some pairs ∧
      LintConfig.WellFormed pairs ∧ LintConfig.builtIn.overlaid pairs = result := by
  rw [lint, reads_lintSchema.record_eq_ok_iff hs]
  simp only [admits_lintSchema_iff]

end Decode

/-! ### Configurations -/

namespace Config

/-- The names of the fields that hold a text. -/
def textNames : List String :=
  ["working_copy_path", "status_report_path", "source_remote_url", "deployment_remote_url",
    "ssh_key_path"]

/-- Pairs that write a configuration. -/
structure WellFormed (pairs : List (Content × Content)) : Prop where
  named : Named (textNames ++ ["lint", "list_home_before_push"]) pairs
  texts : ∀ name ∈ textNames, Readable Content.text? name pairs
  lint : ∀ content, given? "lint" pairs = some content →
    ∃ inner, content.pairs? = some inner ∧ LintConfig.WellFormed inner
  listHomeBeforePush : Readable Content.truth? "list_home_before_push" pairs

/-- The lint command that pairs of their own write, if they are pairs. -/
def lint? (content : Content) : Option LintConfig :=
  content.pairs?.map LintConfig.builtIn.overlaid

/-- A configuration with what pairs give. -/
def overlaid (config : Config) (pairs : List (Content × Content)) : Config where
  workingCopyPath := readOr Content.path? "working_copy_path" pairs config.workingCopyPath
  statusReportPath := readOr Content.path? "status_report_path" pairs config.statusReportPath
  sourceRemote := readOr Content.text? "source_remote_url" pairs config.sourceRemote
  deploymentRemote := readOr Content.text? "deployment_remote_url" pairs config.deploymentRemote
  sshKeyPath := readOr Content.text? "ssh_key_path" pairs config.sshKeyPath
  lint := readOr lint? "lint" pairs config.lint
  listHomeBeforePush :=
    readOr Content.truth? "list_home_before_push" pairs config.listHomeBeforePush

/-- The pairs of a whole document; an empty one has none. -/
def rootPairs? : Option Content → Option (List (Content × Content))
  | none => some []
  | some content => content.pairs?

end Config

namespace Decode

/-- What the fields of a configuration can be set to. -/
def ConfigField.Accepts : ConfigField → Content → Prop
  | .workingCopyPath, content | .statusReportPath, content | .sourceRemote, content
  | .deploymentRemote, content | .sshKeyPath, content => ∃ words, content.text? = some words
  | .lint, content => ∃ inner, content.pairs? = some inner ∧ LintConfig.WellFormed inner
  | .listHomeBeforePush, content => ∃ value, content.truth? = some value

/-- How a configuration is read. -/
theorem reads_configSchema : configSchema.Reads ConfigField.Accepts Config.overlaid where
  name_injective first second h := by
    cases first <;> cases second <;> first | rfl | simp [configSchema] at h
  complete field := by cases field <;> simp [configSchema]
  assign_eq_ok_iff := by
    intro document path field tree key content config changed hs hkey
    simp only [configSchema] at hkey ⊢
    cases field with
    | lint =>
      cases hread : content.pairs? <;>
        simp [ConfigField.Accepts, bind_eq_ok_iff, lint_eq_ok_iff hs, hread, hkey,
          Config.overlaid, Config.lint?, readOr_cons, readOr_nil, pure, Except.pure]
    | listHomeBeforePush =>
      cases hread : content.truth? <;>
        simp [ConfigField.Accepts, bind_eq_ok_iff, boolean_eq_ok_iff hs, hread, hkey,
          Config.overlaid, readOr_cons, readOr_nil, pure, Except.pure]
    | _ =>
      cases hread : content.text? <;>
        simp [ConfigField.Accepts, bind_eq_ok_iff, text_eq_ok_iff hs, Content.path?, hread, hkey,
          Config.overlaid, readOr_cons, readOr_nil, pure, Except.pure]
  overlay_nil config := rfl
  overlay_cons h := by simp only [Config.overlaid, readOr_readOr _ _ h]

/-- Pairs are admitted for a configuration if they write one. -/
theorem admits_configSchema_iff {pairs : List (Content × Content)} :
    configSchema.Admits ConfigField.Accepts [] pairs ↔ Config.WellFormed pairs := by
  constructor
  · intro h
    refine ⟨h.named, ?_, h.accepted .lint, h.accepted .listHomeBeforePush⟩
    simp only [Config.textNames, List.forall_mem_cons]
    exact ⟨h.accepted .workingCopyPath, h.accepted .statusReportPath, h.accepted .sourceRemote,
      h.accepted .deploymentRemote, h.accepted .sshKeyPath, List.forall_mem_nil _⟩
  · intro h
    refine ⟨h.named, by simp, fun field => ?_⟩
    cases field with
    | lint => exact h.lint
    | listHomeBeforePush => exact h.listHomeBeforePush
    | _ => exact h.texts _ (by simp [configSchema, Config.textNames])

end Decode

namespace Config

/-- No pairs write a configuration. -/
theorem wellFormed_nil : WellFormed [] := by
  refine ⟨⟨by simp, by simp⟩, ?_, ?_, ?_⟩
  · intro name _ content h
    cases h
  · intro content h
    cases h
  · intro content h
    cases h

/-- A configuration is read from a document of pairs that write one. -/
theorem ofDocument_eq_ok_iff {document : Document} {content : Option Content}
    (hc : document.completion = .complete) (hs : Option.Rel Tree.Says document.root content)
    {config : Config} :
    ofDocument document = .ok config ↔ ∃ pairs, rootPairs? content = some pairs ∧
      WellFormed pairs ∧ builtIn.overlaid pairs = config := by
  cases hroot : document.root with
  | none =>
    rw [hroot] at hs
    cases hs
    have hdocument : ofDocument document = .ok builtIn := by
      rw [ofDocument, hroot]
      simp only [hc, if_true]
      rfl
    rw [hdocument, Except.ok.injEq]
    constructor
    · rintro rfl
      exact ⟨[], rfl, wellFormed_nil, rfl⟩
    · rintro ⟨pairs, hpairs, -, hresult⟩
      cases hpairs
      exact hresult
  | some root =>
    rw [hroot] at hs
    cases hs with
    | some hs =>
      rw [ofDocument, hroot]
      simp only [hc, if_true, bind_pure]
      refine (Decode.reads_configSchema.record_eq_ok_iff hs).trans ?_
      simp only [Decode.admits_configSchema_iff]
      rfl

/-! ### The order of pairs -/

variable {pairs other : List (Content × Content)}

private theorem writesLint_reordered {content new : Content} (h : content.Reorders new) :
    (∃ inner, content.pairs? = some inner ∧ LintConfig.WellFormed inner) ↔
      ∃ inner, new.pairs? = some inner ∧ LintConfig.WellFormed inner := by
  cases h with
  | same => rfl
  | mapping hp => simpa [Content.pairs?] using Decode.lintWellFormed_reordered (.of_perm hp)

/-- Whether pairs write a configuration does not depend on their order. -/
theorem wellFormed_reordered (h : Reordered pairs other) : WellFormed pairs ↔ WellFormed other := by
  rw [← Decode.admits_configSchema_iff, ← Decode.admits_configSchema_iff]
  refine Decode.Schema.admits_reordered h fun {field content new} hr => ?_
  cases field with
  | lint => exact writesLint_reordered hr
  | listHomeBeforePush => rw [Decode.ConfigField.Accepts, Decode.ConfigField.Accepts, hr.truth?_eq]
  | _ => rw [Decode.ConfigField.Accepts, Decode.ConfigField.Accepts, hr.text?_eq]

/-- The configuration that pairs write does not depend on their order. -/
theorem overlaid_reordered (h : Reordered pairs other) (hw : WellFormed pairs) (config : Config) :
    config.overlaid pairs = config.overlaid other := by
  have hgiven := h.rel_given hw.named.once
  have htext : ∀ name otherwise, readOr Content.text? name pairs otherwise =
      readOr Content.text? name other otherwise :=
    fun name => readOr_eq (hgiven name) fun _ hr => hr.text?_eq
  have hpath : ∀ name otherwise, readOr Content.path? name pairs otherwise =
      readOr Content.path? name other otherwise :=
    fun name => readOr_eq (hgiven name) fun _ hr => hr.path?_eq
  have hlint : ∀ {content new}, given? "lint" pairs = some content →
      Content.Reorders content new → lint? content = lint? new := by
    intro content new hcontent hr
    cases hr with
    | same => rfl
    | mapping hp =>
      obtain ⟨inner, hinner, hwell⟩ := hw.lint _ hcontent
      cases hinner
      simp only [lint?, Content.pairs?, Option.map_some]
      rw [LintConfig.overlaid_reordered (.of_perm hp) hwell]
  simp only [overlaid, htext, hpath]
  rw [readOr_eq (hgiven "lint") hlint,
    readOr_eq (hgiven "list_home_before_push") fun _ hr => hr.truth?_eq]

/-! ### Files -/

/-- A file with a text that is not blank and that is one document, with this content. -/
inductive FileSays (files : FileSystem) (path : String) : Option Content → Prop
  | intro {text : String} {content : Option Content} (ht : files.readText (utf8 path) = .ok text)
    (hb : Text.isBlankText text = false) (hc : (Document.ofText text).completion = .complete)
    (hs : Option.Rel Tree.Says (Document.ofText text).root content) : FileSays files path content

/-- Loading a file that says something gives the configuration of its document, if there is one. -/
theorem value_load_eq_ok_iff {files : FileSystem} {path : String} {content : Option Content}
    (h : FileSays files path content) (setting : Setting) {config : Config} :
    ((load path).outcome setting files).value = .ok config ↔ ∃ pairs,
      rootPairs? content = some pairs ∧ WellFormed pairs ∧ builtIn.overlaid pairs = config := by
  obtain @⟨text, content, ht, hb, hc, hs⟩ := h
  rw [← ofDocument_eq_ok_iff hc hs, ← ofText]
  show ((load path).result setting files).1 = .ok config ↔ _
  rw [load, Attempt.result_bind_lift, Attempt.result_bind_lift]
  simp only [Act.run_log, Act.run_files, ht, hb, Bool.false_eq_true, if_false]
  cases ofText text with
  | ok found =>
    dsimp only
    rw [Attempt.result_bind_lift, Attempt.result, Attempt.outcome_pure, Except.ok.injEq,
      Except.ok.injEq]
  | error failure =>
    dsimp only
    rw [Attempt.result_bind_lift, Attempt.result, Attempt.outcome_throw]
    exact iff_of_false (fun h => by cases h) fun h => by cases h

/-- What a file says decides whether a configuration is loaded from it, and which one. The order of
its pairs and of those of its lint command does not. -/
theorem loads_as_written {files : FileSystem} {path : String} {content : Option Content}
    (h : FileSays files path content) (setting : Setting) :
    (∀ config, ((load path).outcome setting files).value = .ok config ↔ ∃ pairs,
      rootPairs? content = some pairs ∧ WellFormed pairs ∧ config = builtIn.overlaid pairs) ∧
    ∀ {pairs other : List (Content × Content)} {otherFiles : FileSystem} {otherPath : String},
      content = some (.mapping pairs) → Reordered pairs other →
        FileSays otherFiles otherPath (some (.mapping other)) → ∀ otherSetting config,
          ((load path).outcome setting files).value = .ok config ↔
            ((load otherPath).outcome otherSetting otherFiles).value = .ok config := by
  refine ⟨fun config => ?_, ?_⟩
  · rw [value_load_eq_ok_iff h]
    simp only [eq_comm]
  · rintro pairs other otherFiles otherPath rfl hr hother otherSetting config
    rw [value_load_eq_ok_iff h, value_load_eq_ok_iff hother]
    simp only [rootPairs?, Content.pairs?, Option.some.injEq, exists_eq_left',
      ← wellFormed_reordered hr]
    exact and_congr_right fun hw => by rw [overlaid_reordered hr hw]

/-- Two files with the same pairs in different orders. Both give no arguments, a directory and a key
whose text is a tilde, and no program. -/
theorem loads_as_written_reordered :
    let word (text : String) : Content := .scalar .plain text
    let args := (word "args", word "")
    let dir := (word "dir", word "po")
    let key := (word "ssh_key_path", word "~")
    let pairs := [(word "lint", .mapping [args, dir]), key]
    let other := [key, (word "lint", .mapping [dir, args])]
    let files : FileSystem := ⟨.directory [
      (utf8 "relay.yaml",
        .file "lint:\n  args:\n  dir: po\nssh_key_path: ~\n".toUTF8 false),
      (utf8 "other.yaml",
        .file "ssh_key_path: ~\nlint:\n  dir: po\n  args:\n".toUTF8 false)], []⟩
    let setting : Setting := ⟨some (utf8 "/home/relay"), ⟨[]⟩, fun _ => 4096⟩
    let config : Config :=
      { builtIn with
        lint := { program := "make", args := [], dir := utf8 "po" }, sshKeyPath := "~" }
    FileSays files "relay.yaml" (some (.mapping pairs)) ∧
      FileSays files "other.yaml" (some (.mapping other)) ∧ Reordered pairs other ∧
      ((load "relay.yaml").outcome setting files).value = .ok config ∧
      ((load "other.yaml").outcome setting files).value = .ok config := by
  intro word args dir key pairs other files setting config
  have two {first second : Tree} {one other : Content} (h : first.Says one)
      (h' : second.Says other) : List.Forall₂ Tree.Says [first, second] [one, other] :=
    .cons h (.cons h' .nil)
  have hfirst : FileSays files "relay.yaml" (some (.mapping pairs)) := by
    have ht : files.readText (utf8 "relay.yaml") =
      .ok "lint:\n  args:\n  dir: po\nssh_key_path: ~\n" := by decide +kernel
    refine .intro ht (by decide) rfl (.some (.mapping (two .scalar .scalar) (two ?_ .scalar)))
    exact .mapping (two .scalar .scalar) (two .scalar .scalar)
  have hother : FileSays files "other.yaml" (some (.mapping other)) := by
    have ht : files.readText (utf8 "other.yaml") =
      .ok "ssh_key_path: ~\nlint:\n  dir: po\n  args:\n" := by decide +kernel
    refine .intro ht (by decide) rfl (.some (.mapping (two .scalar .scalar) (two .scalar ?_)))
    exact .mapping (two .scalar .scalar) (two .scalar .scalar)
  have horder : Reordered pairs other := by
    refine ⟨_, .swap key (word "lint", .mapping [args, dir]) [], ?_⟩
    exact .cons ⟨rfl, .same⟩ (.cons ⟨rfl, .mapping (.swap dir args [])⟩ .nil)
  have hlint : LintConfig.WellFormed [args, dir] := by
    refine ⟨⟨by decide, by decide⟩, ?_, ?_, ?_⟩
    · rintro content ⟨⟩
    · rintro content ⟨⟩
      exact ⟨_, rfl⟩
    · rintro content ⟨⟩
      exact ⟨_, rfl⟩
  have hwell : WellFormed pairs := by
    refine ⟨⟨by decide, by decide⟩, ?_, ?_, ?_⟩
    · simp only [textNames, List.forall_mem_cons]
      refine ⟨?_, ?_, ?_, ?_, ?_, List.forall_mem_nil _⟩ <;> rintro content ⟨⟩
      exact ⟨_, rfl⟩
    · rintro content ⟨⟩
      exact ⟨_, rfl, hlint⟩
    · rintro content ⟨⟩
  obtain ⟨hwritten, hsame⟩ := loads_as_written hfirst setting
  have hload := (hwritten config).mpr ⟨pairs, rfl, hwell, rfl⟩
  exact ⟨hfirst, hother, horder, hload, (hsame rfl horder hother setting config).mp hload⟩

end Config

end LocaleRelay
