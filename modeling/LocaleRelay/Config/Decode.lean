import LocaleRelay.Config.Basic
import LocaleRelay.Yaml.Meaning
import LocaleRelay.Yaml.Tree

/-!
# Configurations from documents

A document is a configuration if it is empty or a mapping of known fields, none given twice, each
with a value of its kind. A field that is not given keeps its built-in value, inside the lint
command too. What is wrong with a document is told with the place in the configuration and the
position in the text.
-/

namespace LocaleRelay

open Yaml

/-- What stands where something else is expected. -/
inductive Found where
  | sequence
  | mapping
  | nothing
  | boolean (value : Bool)
  | integer (value : Int)
  | real (value : Yaml.Real)
  | text (text : String)
  deriving Repr, DecidableEq

/-- Whole numbers up to this size are told as they are; larger ones are told with the range that
holds them. -/
def Found.isUsual (value : Int) : Bool := -Int.pow 2 63 ≤ value && value < Int.pow 2 64

/-- What was found, in words. -/
def Found.describe : Found → String
  | sequence => "sequence"
  | mapping => "map"
  | nothing => "unit value"
  | boolean value => "boolean `" ++ toString value ++ "`"
  | integer value =>
    "integer `" ++ toString value ++ "`" ++
      (if isUsual value then "" else if value < 0 then " as i128" else " as u128")
  | real value => "floating point `" ++ value.text ++ "`"
  | text words => "string " ++ Text.quote words

/-- What is expected of a node. -/
inductive Expected where
  | text
  | path
  | boolean
  | sequence
  | config
  | lint
  | field
  deriving Repr, DecidableEq

/-- What is expected, in words. -/
def Expected.describe : Expected → String
  | text => "a string"
  | path => "path string"
  | boolean => "a boolean"
  | sequence => "a sequence"
  | config => "struct PipelineConfig"
  | lint => "struct LintConfig"
  | field => "field identifier"

/-- What is wrong with a node: its kind, a text that is not what its tag promises, or a field that
is unknown or given twice. -/
inductive Complaint where
  | wrongKind (found : Found) (expected : Expected)
  | wrongValue (text : String) (promised : String)
  | unknownField (name : String) (known : List String)
  | duplicateField (name : String)
  deriving Repr, DecidableEq

/-- What is wrong, in words. -/
def Complaint.describe : Complaint → String
  | wrongKind found expected =>
    "invalid type: " ++ found.describe ++ ", expected " ++ expected.describe
  | wrongValue text promised =>
    "invalid value: string " ++ Text.quote text ++ ", expected " ++ promised
  | unknownField name known =>
    "unknown field `" ++ name ++ "`, expected one of " ++
      ", ".intercalate (known.map fun field => "`" ++ field ++ "`")
  | duplicateField name => "duplicate field `" ++ name ++ "`"

/-- A step from a node to one inside it; `unnamed` leads to the value of a key that is not written
out. -/
inductive PathStep where
  | key (name : String)
  | unnamed
  | index (n : Nat)
  deriving Repr, DecidableEq

/-- The steps to a node, innermost first. -/
abbrev NodePath := List PathStep

/-- The steps to a node, in words. -/
def NodePath.describe : NodePath → String
  | [] => ""
  | .index n :: outer => describe outer ++ "[" ++ toString n ++ "]"
  | .key name :: outer => (if outer.isEmpty then "" else describe outer ++ ".") ++ name
  | .unnamed :: outer => (if outer.isEmpty then "" else describe outer ++ ".") ++ "?"

/-- What is wrong with a document, with the place in the configuration and the position in the
text. -/
structure Problem where
  path : NodePath
  mark : Mark
  complaint : Complaint
  deriving Repr, DecidableEq

/-- The message of a problem. The very beginning of a text is no position worth telling. -/
def Problem.message (problem : Problem) : String :=
  let mark := problem.mark
  (if problem.path.isEmpty then "" else problem.path.describe ++ ": ") ++
    problem.complaint.describe ++
    if mark.line = 0 ∧ mark.column = 0 then ""
    else " at line " ++ toString (mark.line + 1) ++ " column " ++ toString (mark.column + 1)

/-- Why a document gives no configuration: a part of it is wrong, or missing. -/
inductive DecodeFailure where
  | problem (problem : Problem)
  | unfinished
  deriving Repr, DecidableEq

/-- The message of a document that gives no configuration. -/
def DecodeFailure.message : DecodeFailure → String
  | .problem detail => detail.message
  | .unfinished => "malformed document"

namespace Decode

/-- Refuse a node. -/
def refuse {α : Type} (path : NodePath) (mark : Mark) (complaint : Complaint) :
    Except DecodeFailure α := .error (.problem ⟨path, mark, complaint⟩)

/-- The tags that promise a kind of value. -/
def coreTag (name : String) : TagText := .ofAscii ("tag:yaml.org,2002:" ++ name)

/-- What a plain scalar is found to be. -/
def foundPlain (text : String) : Found :=
  match meaning text with
  | .nothing => .nothing
  | .boolean value => .boolean value
  | .integer value => .integer value
  | .real value => .real value
  | .text => .text text

/-- The complaint about a scalar where something else is expected. A tag for truth values, numbers
or nothing is a promise about the text; a tag of the document's own leaves a plain scalar its
meaning, every other tag makes it a text. -/
def scalarComplaint (scalar : Scalar) (expected : Expected) : Complaint :=
  let promise (found : Option Found) (promised : String) : Complaint :=
    match found with
    | some found => .wrongKind found expected
    | none => .wrongValue scalar.text promised
  let plain := scalar.style = .plain
  match scalar.tag with
  | none => .wrongKind (if plain then foundPlain scalar.text else .text scalar.text) expected
  | some tag =>
    if tag = coreTag "bool" then promise ((boolean? scalar.text).map .boolean) "a boolean"
    else if tag = coreTag "int" then
      promise ((integer? scalar.text.toList).map .integer) "an integer"
    else if tag = coreTag "float" then promise ((real? scalar.text).map .real) "a float"
    else if tag = coreTag "null" then
      promise (if isNothing scalar.text then some .nothing else none) "null"
    else if plain && tag.isLocal then .wrongKind (foundPlain scalar.text) expected
    else .wrongKind (.text scalar.text) expected

/-- A node with a reference followed. -/
def follow (document : Document) : Tree → Tree
  | .alias _ number => (document.target? number).getD .missing
  | tree => tree

/-- Refuse a node because of its kind. -/
def refuseKind {α : Type} (path : NodePath) (expected : Expected) :
    Tree → Except DecodeFailure α
  | .scalar mark _ scalar => refuse path mark (scalarComplaint scalar expected)
  | .sequence mark _ _ => refuse path mark (.wrongKind .sequence expected)
  | .mapping mark _ _ => refuse path mark (.wrongKind .mapping expected)
  | .alias _ _ | .missing => .error .unfinished

/-- The text of a node: every scalar has one. -/
def text (document : Document) (path : NodePath) (expected : Expected) (tree : Tree) :
    Except DecodeFailure String :=
  match follow document tree with
  | .scalar _ _ scalar => .ok scalar.text
  | other => refuseKind path expected other

/-- Whether a scalar is a truth value where one is expected: it is plain, or it is tagged as one and
written as a literal block. -/
def mayBeBoolean (scalar : Scalar) : Bool :=
  scalar.style = .plain || (scalar.style = .literal && scalar.tag = some (coreTag "bool"))

/-- The truth value of a node. -/
def boolean (document : Document) (path : NodePath) (tree : Tree) : Except DecodeFailure Bool :=
  match follow document tree with
  | .scalar mark number scalar =>
    match if mayBeBoolean scalar then boolean? scalar.text else none with
    | some value => .ok value
    | none => refuseKind path .boolean (.scalar mark number scalar)
  | other => refuseKind path .boolean other

/-- Whether a scalar stands for an empty collection. -/
def isEmptyPlain (scalar : Scalar) : Bool := scalar.text.isEmpty && scalar.style = .plain

/-- The texts of the entries of a sequence. -/
def textsOf (document : Document) (path : NodePath) (items : List Tree) :
    Except DecodeFailure (List String) :=
  items.zipIdx.mapM fun (item, index) => text document (.index index :: path) .text item

/-- The texts of a sequence. -/
def texts (document : Document) (path : NodePath) (tree : Tree) :
    Except DecodeFailure (List String) :=
  match follow document tree with
  | .sequence _ _ items => textsOf document path items
  | .scalar mark number scalar =>
    if isEmptyPlain scalar then .ok []
    else refuseKind path .sequence (.scalar mark number scalar)
  | other => refuseKind path .sequence other

/-- The pairs of a mapping with its position; an empty value is a mapping without pairs. -/
def pairs (document : Document) (path : NodePath) (expected : Expected) (tree : Tree) :
    Except DecodeFailure (Mark × List (Tree × Tree)) :=
  match follow document tree with
  | .mapping mark _ pairs => .ok (mark, pairs)
  | .scalar mark number scalar =>
    if isEmptyPlain scalar then .ok (mark, [])
    else refuseKind path expected (.scalar mark number scalar)
  | other => refuseKind path expected other

/-- The step to the value of a key. -/
def stepOf : Tree → PathStep
  | .scalar _ _ scalar => .key scalar.text
  | _ => .unnamed

/-- The position of a node, a reference followed. -/
def markOf (document : Document) (tree : Tree) : Mark :=
  match follow document tree with
  | .scalar mark _ _ | .sequence mark _ _ | .mapping mark _ _ | .alias mark _ => mark
  | .missing => .start

/-- A kind of record: its fields in the order in which they are told, their names, and how one is
given its value by a node. -/
structure Schema (φ ρ : Type) where
  fields : List φ
  name : φ → String
  assign : Document → NodePath → φ → Tree → ρ → Except DecodeFailure ρ

/-- The field that a key names. -/
def fieldOf {φ ρ : Type} (schema : Schema φ ρ) (document : Document) (path : NodePath)
    (key : Tree) : Except DecodeFailure φ := do
  let name ← text document path .field key
  match schema.fields.find? fun field => schema.name field = name with
  | some field => .ok field
  | none =>
    refuse path (markOf document key) (.unknownField name (schema.fields.map schema.name))

/-- A record with the fields that pairs give it, one after the other. `given` are the fields given
before. -/
def assignAll {φ ρ : Type} [DecidableEq φ] (schema : Schema φ ρ) (document : Document)
    (path : NodePath) (mark : Mark) (given : List φ) (record : ρ) :
    List (Tree × Tree) → Except DecodeFailure ρ
  | [] => .ok record
  | (key, value) :: rest => do
    let field ← fieldOf schema document path key
    if field ∈ given then refuse path mark (.duplicateField (schema.name field))
    else
      let record ← schema.assign document (stepOf key :: path) field value record
      assignAll schema document path mark (field :: given) record rest

/-- The fields of a lint command. -/
inductive LintField where
  | program
  | args
  | dir
  deriving Repr, DecidableEq

/-- How a lint command is written. -/
def lintSchema : Schema LintField LintConfig where
  fields := [.program, .args, .dir]
  name
    | .program => "program"
    | .args => "args"
    | .dir => "dir"
  assign document path field value lint :=
    match field with
    | .program => return { lint with program := ← text document path .text value }
    | .args => return { lint with args := ← texts document path value }
    | .dir => return { lint with dir := utf8 (← text document path .path value) }

/-- The lint command that a node writes. -/
def lint (document : Document) (path : NodePath) (tree : Tree) :
    Except DecodeFailure LintConfig := do
  let (mark, pairs) ← pairs document path .lint tree
  assignAll lintSchema document path mark [] LintConfig.builtIn pairs

/-- The fields of a configuration. -/
inductive ConfigField where
  | workingCopyPath
  | statusReportPath
  | sourceRemote
  | deploymentRemote
  | sshKeyPath
  | lint
  | listHomeBeforePush
  deriving Repr, DecidableEq

/-- How a configuration is written. -/
def configSchema : Schema ConfigField Config where
  fields :=
    [.workingCopyPath, .statusReportPath, .sourceRemote, .deploymentRemote, .sshKeyPath, .lint,
      .listHomeBeforePush]
  name
    | .workingCopyPath => "working_copy_path"
    | .statusReportPath => "status_report_path"
    | .sourceRemote => "source_remote_url"
    | .deploymentRemote => "deployment_remote_url"
    | .sshKeyPath => "ssh_key_path"
    | .lint => "lint"
    | .listHomeBeforePush => "list_home_before_push"
  assign document path field value config :=
    match field with
    | .workingCopyPath =>
      return { config with workingCopyPath := utf8 (← text document path .path value) }
    | .statusReportPath =>
      return { config with statusReportPath := utf8 (← text document path .path value) }
    | .sourceRemote => return { config with sourceRemote := ← text document path .text value }
    | .deploymentRemote =>
      return { config with deploymentRemote := ← text document path .text value }
    | .sshKeyPath => return { config with sshKeyPath := ← text document path .text value }
    | .lint => return { config with lint := ← lint document path value }
    | .listHomeBeforePush =>
      return { config with listHomeBeforePush := ← boolean document path value }

end Decode

/-- The configuration that a document writes. The document has to be the only one of its text. -/
def Config.ofDocument (document : Document) : Except DecodeFailure Config := do
  let config ←
    match document.root with
    | none => .ok Config.builtIn
    | some root => do
      let (mark, pairs) ← Decode.pairs document [] .config root
      Decode.assignAll Decode.configSchema document [] mark [] Config.builtIn pairs
  if document.completion = .complete then return config else throw .unfinished

end LocaleRelay
