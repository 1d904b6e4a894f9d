import LocaleRelay.Files.Node

/-!
# What changes in a tree

Two views of a node: its shape leaves out the entries of a directory, which are nodes at places of
their own; its kind leaves out the bytes of a file too. A tree is known by the shapes at its places.
Putting a node where there is room for it changes the shape at that place and at no other, and a
tree that keeps every kind is as good as the one before it for finding a way through.
-/

namespace LocaleRelay.Files

namespace Node

/-- A node without the entries of a directory. -/
def shape : Node → Node
  | directory _ => directory []
  | node => node

/-- A node without the entries of a directory and without the bytes of a file. -/
def kind : Node → Node
  | directory _ => directory []
  | file _ executable => file ByteArray.empty executable
  | node => node

/-- The shape of the node at a place. -/
def shapeAt (tree : Node) (place : Location) : Option Node := (tree.at? place).map shape

/-- Whether a node has no entries. -/
def IsLeaf (node : Node) : Prop := ∀ name, node.child? name = none

/-- Whether a node can be put at a place: a leaf is there to be replaced, or the place is a vacant
name of a directory. -/
inductive HasRoom (tree : Node) : Location → Prop
  | replace {place : Location} {old : Node} :
      tree.at? place = some old → old.IsLeaf → HasRoom tree place
  | add {dir : Location} {name : Name} {entries : List (Name × Node)} :
      tree.at? dir = some (directory entries) → Entries.find? name entries = none →
      HasRoom tree (dir ++ [name])

/-- Whether every place of one tree is in another, with a node of the same kind. -/
def Grown (before after : Node) : Prop :=
  ∀ place node, before.at? place = some node →
    ∃ node', after.at? place = some node' ∧ node'.kind = node.kind

/-! ### Nodes without entries -/

/-- A file has no entries. -/
theorem isLeaf_file (content : ByteArray) (executable : Bool) :
    (file content executable).IsLeaf := fun _ => rfl

/-- A device has no entries. -/
theorem isLeaf_device (device : Device) : (Node.device device).IsLeaf := fun _ => rfl

/-- A new directory has no entries. -/
theorem isLeaf_directory_nil : (directory []).IsLeaf := fun _ => rfl

private theorem at?_cons_of_isLeaf {node : Node} (h : node.IsLeaf) (name : Name) (more : Location) :
    node.at? (name :: more) = none := by
  rw [at?_cons, h name]
  rfl

/-- The shape of a node tells its kind. -/
theorem kind_shape (node : Node) : node.shape.kind = node.kind := by
  cases node <;> rfl

/-- The directories are the nodes with a list of entries. -/
theorem isDirectory_iff {node : Node} :
    node.isDirectory = true ↔ ∃ entries, node = directory entries := by
  cases node with
  | directory entries => exact ⟨fun _ => ⟨entries, rfl⟩, fun _ => rfl⟩
  | file content executable => simp [isDirectory]
  | device device => simp [isDirectory]
  | link target => simp [isDirectory]

/-- Only a directory has the shape of one. -/
theorem eq_directory_of_shape {node : Node} {entries : List (Name × Node)}
    (h : node.shape = (directory entries).shape) : ∃ entries', node = directory entries' := by
  cases node with
  | directory entries' => exact ⟨entries', rfl⟩
  | file content executable => cases h
  | device device => cases h
  | link target => cases h

/-- Only a directory is of the kind of one. -/
theorem eq_directory_of_kind {node : Node} {entries : List (Name × Node)}
    (h : node.kind = (directory entries).kind) : ∃ entries', node = directory entries' := by
  cases node with
  | directory entries' => exact ⟨entries', rfl⟩
  | file content executable => cases h
  | device device => cases h
  | link target => cases h

/-- Only a link is of the kind of a link, and it leads the same way. -/
theorem eq_link_of_kind {node : Node} {target : List UInt8}
    (h : node.kind = (Node.link target).kind) : node = .link target := by
  cases node with
  | directory entries => cases h
  | file content executable => cases h
  | device device => cases h
  | link target' => exact h

/-- Only a device is of the kind of a device. -/
theorem eq_device_of_kind {node : Node} {device : Device}
    (h : node.kind = (Node.device device).kind) : node = .device device := by
  cases node with
  | directory entries => cases h
  | file content executable => cases h
  | device device' => exact h
  | link target => cases h

/-- Of all nodes but directories the shape is the node itself. -/
theorem eq_of_shape {node other : Node} (h : node.shape = other.shape)
    (hd : other.isDirectory = false) : node = other := by
  cases other with
  | directory entries => cases hd
  | file content executable => cases node <;> first | exact h | cases h
  | device device => cases node <;> first | exact h | cases h
  | link target => cases node <;> first | exact h | cases h

/-- At a place without a directory the shape is the node that is there. -/
theorem shapeAt_eq_some_iff {tree node : Node} {place : Location}
    (hn : node.isDirectory = false) :
    tree.shapeAt place = some node ↔ tree.at? place = some node := by
  have hself : node.shape = node := by
    cases node with
    | directory entries => cases hn
    | file content executable => rfl
    | device device => rfl
    | link target => rfl
  rw [shapeAt, Option.map_eq_some_iff]
  constructor
  · rintro ⟨other, hat, hs⟩
    rw [hat, eq_of_shape (hs.trans hself.symm) hn]
  · intro hat
    exact ⟨node, hat, hself⟩

/-- A directory is where the shape is one. -/
theorem shapeAt_eq_directory_iff {tree : Node} {place : Location} :
    tree.shapeAt place = some (directory []) ↔
      ∃ entries, tree.at? place = some (directory entries) := by
  rw [shapeAt, Option.map_eq_some_iff]
  constructor
  · rintro ⟨node, hat, hs⟩
    obtain ⟨entries, rfl⟩ := eq_directory_of_shape (show node.shape = (directory []).shape from hs)
    exact ⟨entries, hat⟩
  · rintro ⟨entries, hat⟩
    exact ⟨_, hat, rfl⟩

/-- A place without a shape is vacant. -/
theorem shapeAt_eq_none_iff {tree : Node} {place : Location} :
    tree.shapeAt place = none ↔ tree.at? place = none := Option.map_eq_none_iff

/-! ### Places in a directory -/

/-- A name in a directory is the entry of that name. -/
theorem at?_concat {tree : Node} {dir : Location} {entries : List (Name × Node)}
    (h : tree.at? dir = some (directory entries)) (name : Name) :
    tree.at? (dir ++ [name]) = Entries.find? name entries := by
  rw [at?_append, h]
  cases hf : Entries.find? name entries <;> simp [at?_cons, child?, hf]

/-- Only a directory has places below it. -/
theorem exists_directory_of_at?_cons {tree node : Node} {name : Name} {more : Location}
    (h : tree.at? (name :: more) = some node) : ∃ entries, tree = directory entries := by
  cases tree with
  | directory entries => exact ⟨entries, rfl⟩
  | file content executable => cases h
  | device device => cases h
  | link target => cases h

/-- Every place on the way to a node is a directory. -/
theorem exists_directory_of_at?_append {tree node : Node} {dir : Location} {name : Name}
    {more : Location} (h : tree.at? (dir ++ name :: more) = some node) :
    ∃ entries, tree.at? dir = some (directory entries) := by
  rw [at?_append, Option.bind_eq_some_iff] at h
  obtain ⟨inner, hat, hmore⟩ := h
  obtain ⟨entries, rfl⟩ := exists_directory_of_at?_cons hmore
  exact ⟨entries, hat⟩

/-! ### Putting a node in its place -/

/-- Below a name that a directory has there is room where its child has room. -/
theorem HasRoom.of_cons {entries : List (Name × Node)} {name : Name} {child : Node}
    {more : Location} (h : (directory entries).HasRoom (name :: more))
    (hf : Entries.find? name entries = some child) : child.HasRoom more := by
  generalize hp : name :: more = place at h
  cases h with
  | replace hat hold =>
    subst hp
    rw [at?_cons, child?, hf] at hat
    exact .replace hat hold
  | @add dir last inner hat hnone =>
    cases dir with
    | nil =>
      obtain ⟨rfl, rfl⟩ : name = last ∧ more = [] := by simpa using hp
      obtain rfl : entries = inner := by simpa using hat
      rw [hf] at hnone
      cases hnone
    | cons first dir =>
      obtain ⟨rfl, rfl⟩ : name = first ∧ more = dir ++ [last] := by simpa using hp
      rw [at?_cons, child?, hf] at hat
      exact .add hat hnone

/-- Below a name that a directory does not have there is no room. -/
theorem HasRoom.eq_nil_of_vacant {entries : List (Name × Node)} {name : Name} {more : Location}
    (h : (directory entries).HasRoom (name :: more)) (hf : Entries.find? name entries = none) :
    more = [] := by
  generalize hp : name :: more = place at h
  cases h with
  | replace hat hold =>
    subst hp
    rw [at?_cons, child?, hf] at hat
    cases hat
  | @add dir last inner hat hnone =>
    cases dir with
    | nil => exact (by simpa using hp : name = last ∧ more = []).2
    | cons first dir =>
      obtain ⟨rfl, -⟩ : name = first ∧ more = dir ++ [last] := by simpa using hp
      rw [at?_cons, child?, hf] at hat
      cases hat

/-- There is room below directories only. -/
theorem HasRoom.exists_directory {tree : Node} {name : Name} {more : Location}
    (h : tree.HasRoom (name :: more)) : ∃ entries, tree = directory entries := by
  generalize hp : name :: more = place at h
  cases h with
  | replace hat hold =>
    subst hp
    exact exists_directory_of_at?_cons hat
  | @add dir last inner hat hnone =>
    cases dir with
    | nil => exact ⟨inner, by simpa using hat⟩
    | cons first dir => exact exists_directory_of_at?_cons hat

/-- Only a leaf is replaced at the root. -/
theorem HasRoom.isLeaf_of_nil {tree : Node} (h : tree.HasRoom []) : tree.IsLeaf := by
  generalize hp : ([] : Location) = place at h
  cases h with
  | replace hat hold =>
    subst hp
    obtain rfl : tree = _ := by simpa using hat
    exact hold
  | add hat hnone => simp at hp

private theorem shapeAt_nil (tree : Node) : tree.shapeAt [] = some tree.shape := rfl

private theorem shapeAt_cons (entries : List (Name × Node)) (name : Name) (more : Location) :
    (directory entries).shapeAt (name :: more) =
      (Entries.find? name entries).bind fun child => child.shapeAt more := by
  rw [shapeAt, at?_cons, child?]
  cases Entries.find? name entries <;> rfl

private theorem shapeAt_of_isLeaf {node : Node} (h : node.IsLeaf) {place : Location}
    (hp : place ≠ []) : node.shapeAt place = none := by
  cases place with
  | nil => exact absurd rfl hp
  | cons name more => rw [shapeAt, at?_cons_of_isLeaf h, Option.map_none]

/-- A leaf that is put where there is room is at its place, and every other place keeps its
shape. -/
theorem shapeAt_put {tree new : Node} {place : Location} (room : tree.HasRoom place)
    (hnew : new.IsLeaf) (other : Location) :
    (tree.put place new).shapeAt other =
      if other = place then some new.shape else tree.shapeAt other := by
  induction place generalizing tree other with
  | nil =>
    rw [put]
    split
    · next h => rw [h, shapeAt_nil]
    · next h => rw [shapeAt_of_isLeaf hnew h, shapeAt_of_isLeaf room.isLeaf_of_nil h]
  | cons name more ih =>
    obtain ⟨entries, rfl⟩ := room.exists_directory
    cases hf : Entries.find? name entries with
    | some child =>
      cases other with
      | nil => simp [put, hf, shapeAt_nil, shape]
      | cons name' more' =>
        simp only [put, hf, shapeAt_cons]
        by_cases hn : name' = name
        · subst hn
          rw [Entries.find?_put_self, hf, Option.bind_some, Option.bind_some,
            ih (room.of_cons hf)]
          simp
        · rw [Entries.find?_put_of_ne _ _ hn]
          simp [hn]
    | none =>
      obtain rfl := room.eq_nil_of_vacant hf
      cases other with
      | nil => simp [put, hf, shapeAt_nil, shape]
      | cons name' more' =>
        simp only [put, hf, shapeAt_cons]
        by_cases hn : name' = name
        · subst hn
          rw [Entries.find?_put_self, Option.bind_some, hf, Option.bind_none]
          cases more' with
          | nil => simp [shapeAt_nil]
          | cons name more => simp [shapeAt_of_isLeaf hnew]
        · rw [Entries.find?_put_of_ne _ _ hn]
          simp [hn]

/-- What is put where there is room is there, unless it is a directory. -/
theorem at?_put {tree new : Node} {place : Location} (room : tree.HasRoom place)
    (hnew : new.IsLeaf) (hd : new.isDirectory = false) :
    (tree.put place new).at? place = some new := by
  have h := shapeAt_put room hnew place
  rw [if_pos rfl, shapeAt, Option.map_eq_some_iff] at h
  obtain ⟨node, hat, hs⟩ := h
  rw [hat, eq_of_shape hs hd]

/-! ### Trees that keep every kind -/

/-- A tree keeps every kind of its own. -/
theorem Grown.refl (tree : Node) : Grown tree tree := fun _ node h => ⟨node, h, rfl⟩

/-- Keeping every kind twice keeps it. -/
theorem Grown.trans {first second third : Node} (h : Grown first second) (h' : Grown second third) :
    Grown first third := by
  intro place node hn
  obtain ⟨node', hn', hk⟩ := h place node hn
  obtain ⟨node'', hn'', hk'⟩ := h' place node' hn'
  exact ⟨node'', hn'', hk'.trans hk⟩

/-- A tree keeps every kind if it keeps the shapes at all places but one, and the kind of what is
at that one. -/
theorem grown_of_shapeAt {before after : Node} (place : Location)
    (hs : ∀ other, other ≠ place → after.shapeAt other = before.shapeAt other)
    (hk : ∀ old, before.at? place = some old →
      ∃ new, after.at? place = some new ∧ new.kind = old.kind) : Grown before after := by
  intro other node hn
  by_cases ho : other = place
  · subst ho
    exact hk node hn
  · have h := hs other ho
    rw [shapeAt, shapeAt, hn, Option.map_some, Option.map_eq_some_iff] at h
    obtain ⟨node', hn', h'⟩ := h
    exact ⟨node', hn', by rw [← kind_shape node', h', kind_shape]⟩

/-- Adding a leaf where nothing was keeps every kind. -/
theorem grown_put_vacant {tree new : Node} {place : Location} (room : tree.HasRoom place)
    (hnew : new.IsLeaf) (hv : tree.at? place = none) : Grown tree (tree.put place new) := by
  apply grown_of_shapeAt place
  · intro other ho
    rw [shapeAt_put room hnew, if_neg ho]
  · intro old hold
    rw [hv] at hold
    cases hold

/-- Replacing a leaf by one of its kind keeps every kind. -/
theorem grown_put_kind {tree old new : Node} {place : Location} (room : tree.HasRoom place)
    (hnew : new.IsLeaf) (hd : new.isDirectory = false) (hold : tree.at? place = some old)
    (hk : new.kind = old.kind) : Grown tree (tree.put place new) := by
  apply grown_of_shapeAt place
  · intro other ho
    rw [shapeAt_put room hnew, if_neg ho]
  · intro old' hold'
    obtain rfl : old = old' := Option.some.inj (hold.symm.trans hold')
    exact ⟨new, at?_put room hnew hd, hk⟩

end Node

end LocaleRelay.Files
