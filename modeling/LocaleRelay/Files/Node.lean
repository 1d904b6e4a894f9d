/-!
# File trees

Directories, files, devices and symbolic links as one value. A directory keeps its entries in the
order in which they were made; looking up a name finds the first entry of that name, and putting a
node under a name replaces that entry or adds one at the end.
-/

namespace LocaleRelay.Files

/-- The name of a directory entry, as bytes. -/
abbrev Name := List UInt8

/-- A place in a tree: the names on the way to it from the root. -/
abbrev Location := List Name

/-- The two devices a report may be written to: one takes every byte and keeps none, the other takes
no byte at all. -/
inductive Device where
  | null
  | full
  deriving Repr, DecidableEq

/-- A node of a file tree; the target of a symbolic link is the bytes of a path. -/
inductive Node where
  | file (content : ByteArray) (executable : Bool)
  | device (kind : Device)
  | link (target : List UInt8)
  | directory (entries : List (Name × Node))

namespace Entries

/-- The first entry of a name. -/
def find? (name : Name) : List (Name × Node) → Option Node
  | [] => none
  | (key, node) :: rest => if key = name then some node else find? name rest

/-- The entries with a node under a name, in place of the entry of that name or at the end. -/
def put (name : Name) (new : Node) : List (Name × Node) → List (Name × Node)
  | [] => [(name, new)]
  | (key, node) :: rest =>
    if key = name then (key, new) :: rest else (key, node) :: put name new rest

/-- What is put under a name is found under it. -/
theorem find?_put_self (name : Name) (new : Node) (entries : List (Name × Node)) :
    find? name (put name new entries) = some new := by
  induction entries with
  | nil => simp [put, find?]
  | cons entry rest ih =>
    by_cases h : entry.1 = name
    · simp [put, find?, h]
    · simp [put, find?, h, ih]

/-- Putting a node under a name leaves every other name as it was. -/
theorem find?_put_of_ne {name other : Name} (new : Node) (entries : List (Name × Node))
    (h : other ≠ name) : find? other (put name new entries) = find? other entries := by
  induction entries with
  | nil => simp [put, find?, h.symm]
  | cons entry rest ih =>
    by_cases hk : entry.1 = name
    · simp [put, find?, hk, h.symm]
    · simp [put, find?, hk, ih]

end Entries

namespace Node

/-- The entry of a name in a directory; any other node has none. -/
def child? (name : Name) : Node → Option Node
  | directory entries => Entries.find? name entries
  | _ => none

/-- The node at a place, without following links. -/
def at? : Location → Node → Option Node
  | [], node => some node
  | name :: more, node => (node.child? name).bind (at? more)

/-- The tree with a node at a place whose parent is a directory of it. -/
def put : Node → Location → Node → Node
  | _, [], new => new
  | directory entries, name :: more, new =>
    match Entries.find? name entries, more with
    | some child, _ => directory (Entries.put name (child.put more new) entries)
    | none, [] => directory (Entries.put name new entries)
    | none, _ :: _ => directory entries
  | node, _ :: _, _ => node

/-- Whether a node is a directory. -/
def isDirectory : Node → Bool
  | directory _ => true
  | _ => false

/-- Whether a node is a regular file. -/
def isFile : Node → Bool
  | file _ _ => true
  | _ => false

/-- The root of a tree is at the empty place. -/
@[simp] theorem at?_nil (node : Node) : node.at? [] = some node := rfl

/-- Looking up a place looks up its first name and then the rest. -/
theorem at?_cons (name : Name) (more : Location) (node : Node) :
    node.at? (name :: more) = (node.child? name).bind (at? more) := rfl

/-- Looking up a place in two parts looks up one part after the other. -/
theorem at?_append (first second : Location) (node : Node) :
    node.at? (first ++ second) = (node.at? first).bind (at? second) := by
  induction first generalizing node with
  | nil => rfl
  | cons name more ih =>
    simp only [List.cons_append, at?_cons]
    cases node.child? name with
    | none => rfl
    | some child => exact ih child

end Node

end LocaleRelay.Files
