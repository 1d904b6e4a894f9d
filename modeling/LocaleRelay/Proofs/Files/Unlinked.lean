import LocaleRelay.Proofs.Files.Names
import LocaleRelay.Proofs.Files.Operations
import Mathlib.Data.List.Induction

/-!
# Files without links

Where no link is on the way, a path that is written as names leads below the working directory by
these names and nowhere else. What is found on the way decides everything: names that are there lead
on from directory to directory, a name that is missing can be made together with those after it, and
a name that stands for anything but a directory lets nothing through, before anything is made.
-/

namespace LocaleRelay.Files

variable {tree : Node} {purpose : Purpose} {links : Nat} {here : Location} {spot : Spot}
  {node : Node} {first parts : List Name} {part : Name}

/-- Whether no place of a tree is a link. -/
def Node.Unlinked (tree : Node) : Prop := ∀ place target, tree.at? place ≠ some (.link target)

/-- A file is a tree without links. -/
theorem Node.unlinked_file (content : ByteArray) (executable : Bool) :
    (Node.file content executable).Unlinked := by
  intro place target
  cases place with
  | nil => simp
  | cons name more => simp [at?_cons, child?]

/-- A directory is a tree without links if all its entries are. -/
theorem Node.unlinked_directory {entries : List (Name × Node)}
    (h : ∀ entry ∈ entries, entry.2.Unlinked) : (Node.directory entries).Unlinked := by
  intro place target
  cases place with
  | nil => simp
  | cons name more =>
    rw [at?_cons, child?]
    induction entries with
    | nil => simp [Entries.find?]
    | cons entry rest ih =>
      rw [Entries.find?]
      split
      · exact h entry (by simp) more target
      · exact ih fun other ho => h other (by simp [ho])

/-! ### Walks along names -/

private theorem isEntryName_of_forall
    (h : ∀ other ∈ part :: parts, IsEntryName .reach other []) :
    IsEntryName purpose part parts where
  moves := (h part (by simp)).moves
  downwards := (h part (by simp)).downwards
  unslashed := by
    rintro ⟨-, hne, hall⟩
    obtain ⟨next, rest, rfl⟩ := List.exists_cons_of_ne_nil hne
    have hmoves := (h next (by simp)).moves
    obtain ⟨rfl, -⟩ := by simpa using hall
    simp [staysPut] at hmoves
  short := (h part (by simp)).short

/-- A walk along names goes on from a directory that the first ones lead to. -/
theorem walk_append {entries : List (Name × Node)}
    (hparts : ∀ part ∈ first ++ parts, IsEntryName .reach part []) (hne : parts ≠ [])
    (hat : tree.at? (here ++ first) = some (.directory entries)) :
    walk tree purpose links here (first ++ parts) =
      walk tree purpose links (here ++ first) parts := by
  induction first generalizing here with
  | nil => simp
  | cons part first ih =>
    obtain ⟨outer, hhere⟩ := Node.exists_directory_of_at?_append hat
    obtain ⟨inner, hpart⟩ : ∃ inner, tree.at? (here ++ [part]) = some (.directory inner) := by
      cases first with
      | nil => exact ⟨entries, hat⟩
      | cons next first =>
        rw [List.append_cons] at hat
        exact Node.exists_directory_of_at?_append hat
    rw [List.append_cons] at hat
    have hname : IsEntryName purpose part (first ++ parts) := isEntryName_of_forall hparts
    rw [List.cons_append, walk_entry hhere hname (by simp [hne]) (by simp [hpart]), hpart,
      List.append_cons here part first]
    refine ih (fun other ho => hparts other ?_) hat
    exact List.mem_cons_of_mem _ ho

/-- A walk along names ends in the place below its beginning that has these names. -/
theorem Walks.place_of_names (hl : tree.Unlinked)
    (hparts : ∀ part ∈ parts, IsEntryName .reach part []) {place : Location}
    (h : Walks tree purpose links here parts (.found place node)) : place = here ++ parts := by
  generalize hs : Spot.found place node = spot at h
  induction h with
  | arrive =>
    cases hs
    simp
  | stay _ hstays =>
    rw [(hparts _ (by simp)).moves] at hstays
    cases hstays
  | ascend => exact absurd rfl (hparts upName (by simp)).downwards
  | vacancy => cases hs
  | entry _ hat => exact absurd hat (hl _ _)
  | link _ hat => exact absurd hat (hl _ _)
  | last =>
    cases hs
    rfl
  | descend _ _ _ _ ih =>
    rw [List.append_cons]
    exact ih (fun other ho => hparts other (by simp [ho])) hs

namespace FileSystem

variable {fs before after : FileSystem} {names front : List Name} {name : Name}

/-! ### Places with names -/

/-- The place that has these names below the working directory. -/
def under (fs : FileSystem) (names : List Name) : Location := fs.working ++ names

/-- Files without links, whose working directory is there. -/
structure Plain (fs : FileSystem) : Prop where
  unlinked : fs.root.Unlinked
  working : ∃ entries, fs.root.at? fs.working = some (.directory entries)

/-- Whether nothing but directories is on the way of some names. -/
def Clear (fs : FileSystem) (names : List Name) : Prop :=
  ∀ front, front <+: names → ∀ node, fs.root.at? (fs.under front) = some node →
    node.isDirectory = true

/-- How far names lead from the working directory. -/
inductive Trail (fs : FileSystem) : List Name → Prop
  | whole {names : List Name} {entries : List (Name × Node)} :
      fs.root.at? (fs.under names) = some (.directory entries) → Trail fs names
  | missing {front rest : List Name} {name : Name} {entries : List (Name × Node)} :
      fs.root.at? (fs.under front) = some (.directory entries) →
      fs.root.at? (fs.under (front ++ [name])) = none → Trail fs (front ++ name :: rest)
  | blocked {front rest : List Name} {name : Name} {entries : List (Name × Node)}
      {node : Node} :
      fs.root.at? (fs.under front) = some (.directory entries) →
      fs.root.at? (fs.under (front ++ [name])) = some node → node.isDirectory = false →
      Trail fs (front ++ name :: rest)

/-- The place of more names is below that of the first ones. -/
theorem under_append (fs : FileSystem) (front rest : List Name) :
    fs.under (front ++ rest) = fs.under front ++ rest := by
  rw [under, under, List.append_assoc]

/-- The place of one more name is an entry of the one before. -/
theorem under_concat (fs : FileSystem) (front : List Name) (name : Name) :
    fs.under (front ++ [name]) = fs.under front ++ [name] := under_append fs front [name]

/-- Other names have another place. -/
theorem under_injective (fs : FileSystem) : Function.Injective fs.under :=
  fun _ _ h => List.append_cancel_left h

/-- Names that are in the way of something are directories. -/
theorem exists_directory_of_proper (hp : front <+: names) (hne : front ≠ names)
    (hat : fs.root.at? (fs.under names) = some node) :
    ∃ entries, fs.root.at? (fs.under front) = some (.directory entries) := by
  obtain ⟨rest, rfl⟩ := hp
  obtain ⟨name, rest, rfl⟩ := List.exists_cons_of_ne_nil (l := rest) (by simpa using hne)
  rw [under_append] at hat
  exact Node.exists_directory_of_at?_append hat

/-- Nothing is below a place where nothing is. -/
theorem at?_eq_none_of_missing (hp : front <+: names)
    (hat : fs.root.at? (fs.under front) = none) : fs.root.at? (fs.under names) = none := by
  obtain ⟨rest, rfl⟩ := hp
  rw [under_append, Node.at?_append, hat, Option.bind_none]

/-- From a working directory that is there names lead somewhere. -/
theorem Plain.trail (h : fs.Plain) (names : List Name) : fs.Trail names := by
  induction names using List.reverseRecOn with
  | nil =>
    obtain ⟨entries, hat⟩ := h.working
    exact .whole (by simpa [under] using hat)
  | append_singleton front name ih =>
    cases ih with
    | whole hfront =>
      cases hat : fs.root.at? (fs.under (front ++ [name])) with
      | none => exact .missing hfront hat
      | some node =>
        cases hdir : node.isDirectory with
        | false => exact .blocked hfront hat hdir
        | true =>
          obtain ⟨entries, rfl⟩ := Node.isDirectory_iff.mp hdir
          exact .whole hat
    | missing hfront hat =>
      rw [List.append_assoc]
      exact .missing hfront hat
    | blocked hfront hat hdir =>
      rw [List.append_assoc]
      exact .blocked hfront hat hdir

/-! ### Where names lead -/

/-- Where a path of names leads is a matter of the walk along them. -/
theorem locate_names (h : Path.AreNames names) (hn : names ≠ []) :
    fs.locate purpose (Path.ofNames names) =
      walk fs.root purpose linkLimit fs.working names := by
  rw [locate, h.parse hn]
  rfl

private theorem walk_names {entries : List (Name × Node)} {rest : List Name}
    (h : ∀ name ∈ front ++ rest, Path.IsName name) (hr : rest ≠ [])
    (hat : fs.root.at? (fs.under front) = some (.directory entries)) :
    walk fs.root purpose links fs.working (front ++ rest) =
      walk fs.root purpose links (fs.under front) rest := by
  exact walk_append (fun part hpart => (h part hpart).isEntryName) hr hat

/-- A walk along names finds the node that is there. -/
theorem walk_found (hfs : fs.Plain) (h : ∀ name ∈ names, Path.IsName name)
    (hn : names ≠ []) (hat : fs.root.at? (fs.under names) = some node) :
    walk fs.root purpose links fs.working names =
      .ok (.found (fs.under names) node) := by
  obtain ⟨front, name, rfl⟩ := (List.eq_nil_or_concat names).resolve_left hn
  rw [List.concat_eq_append] at h hat ⊢
  obtain ⟨entries, hfront⟩ := exists_directory_of_proper (List.prefix_append _ _) (by simp) hat
  have hname := (h name (by simp)).isEntryName
  rw [walk_names h (by simp) hfront]
  rw [under_concat] at hat ⊢
  refine walk_eq_ok_iff.mpr (.last ?_ hat fun target he => hfs.unlinked _ target (he ▸ hat))
  exact ⟨hname.moves, hname.downwards, by simp, hname.short⟩

/-- A walk along names ends in a vacancy where only the last one is missing. -/
theorem walk_vacant {entries : List (Name × Node)}
    (h : ∀ other ∈ front ++ [name], Path.IsName other)
    (hfront : fs.root.at? (fs.under front) = some (.directory entries))
    (hat : fs.root.at? (fs.under (front ++ [name])) = none) :
    walk fs.root purpose links fs.working (front ++ [name]) =
      .ok (.vacant (fs.under front) name) := by
  have hname := (h name (by simp)).isEntryName
  rw [walk_names h (by simp) hfront]
  rw [under_concat] at hat
  refine walk_eq_ok_iff.mpr (.vacancy hfront ?_ hat)
  exact ⟨hname.moves, hname.downwards, by simp, hname.short⟩

private theorem walk_next (hfs : fs.Plain) {entries : List (Name × Node)} {rest : List Name}
    (h : ∀ other ∈ front ++ name :: rest, Path.IsName other) (hr : rest ≠ [])
    (hfront : fs.root.at? (fs.under front) = some (.directory entries)) :
    walk fs.root purpose links fs.working (front ++ name :: rest) =
      match fs.root.at? (fs.under (front ++ [name])) with
      | some (.directory _) =>
        walk fs.root purpose links (fs.under front ++ [name]) rest
      | some _ => .error .notDirectory
      | none => .error .notFound := by
  have hname : IsEntryName purpose name rest :=
    isEntryName_of_forall fun other ho => (h other (List.mem_append_right front ho)).isEntryName
  rw [walk_names h (by simp) hfront, under_concat]
  exact walk_entry hfront hname hr fun target => hfs.unlinked _ target

/-- A walk along names finds nothing where one before the last is missing. -/
theorem walk_missing (hfs : fs.Plain) {entries : List (Name × Node)} {rest : List Name}
    (h : ∀ other ∈ front ++ name :: rest, Path.IsName other) (hr : rest ≠ [])
    (hfront : fs.root.at? (fs.under front) = some (.directory entries))
    (hat : fs.root.at? (fs.under (front ++ [name])) = none) :
    walk fs.root purpose links fs.working (front ++ name :: rest) =
      .error .notFound := by
  rw [walk_next hfs h hr hfront, hat]

/-- A walk along names does not go on where one before the last is no directory. -/
theorem walk_blocked (hfs : fs.Plain) {entries : List (Name × Node)} {rest : List Name}
    (h : ∀ other ∈ front ++ name :: rest, Path.IsName other) (hr : rest ≠ [])
    (hfront : fs.root.at? (fs.under front) = some (.directory entries))
    (hat : fs.root.at? (fs.under (front ++ [name])) = some node) (hdir : node.isDirectory = false) :
    walk fs.root purpose links fs.working (front ++ name :: rest) =
      .error .notDirectory := by
  rw [walk_next hfs h hr hfront, hat]
  cases node with
  | directory entries => cases hdir
  | file content executable => rfl
  | device kind => rfl
  | link target => rfl

/-- A path of names leads to the place with these names, if something is there, and to no other. -/
theorem Plain.lookup_names (hfs : fs.Plain) (h : Path.AreNames names) (hn : names ≠ [])
    {place : Location} :
    fs.lookup (Path.ofNames names) = .ok (place, node) ↔
      place = fs.under names ∧ fs.root.at? place = some node := by
  rw [lookup_eq_ok_iff, locate_names h hn]
  constructor
  · intro hw
    have hwalks := walk_eq_ok_iff.mp hw
    have hparts := fun part hpart => (h.each part hpart).isEntryName
    exact ⟨hwalks.place_of_names hfs.unlinked hparts, hwalks.at?_found⟩
  · rintro ⟨rfl, hat⟩
    exact walk_found hfs h.each hn hat

/-- A path of names leads to a directory exactly if one has these names. -/
theorem Plain.isDirectory_names (hfs : fs.Plain) (h : Path.AreNames names) (hn : names ≠ []) :
    fs.isDirectory (Path.ofNames names) = true ↔
      ∃ node, fs.root.at? (fs.under names) = some node ∧ node.isDirectory = true := by
  rw [isDirectory]
  cases hl : fs.lookup (Path.ofNames names) with
  | ok found =>
    obtain ⟨hplace, hat⟩ := (hfs.lookup_names h hn).mp hl
    rw [hplace] at hat
    simp [hat]
  | error fault =>
    constructor
    · intro hf
      cases hf
    · rintro ⟨node, hat, -⟩
      rw [(hfs.lookup_names h hn).mpr ⟨rfl, hat⟩] at hl
      cases hl

end FileSystem

end LocaleRelay.Files
