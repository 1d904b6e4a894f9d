import LocaleRelay.Files.FileSystem
import LocaleRelay.Proofs.Files.Ancestor
import LocaleRelay.Proofs.Files.Walk

/-!
# What operations leave alone

Every operation that changes files changes them at places that it can name: writing and appending at
the place of one file, making directories at vacant places that then are directories on the way of
the path. Everywhere else the files keep their shape, and since no kind is lost every path that led
somewhere leads there still.
-/

namespace LocaleRelay.Files

namespace FileSystem

variable {fs before after : FileSystem} {path : RawPath} {place : Location} {node : Node}

/-- Where a route starts. -/
def start (fs : FileSystem) (route : Route) : Location := if route.absolute then [] else fs.working

/-- Files that differ from others at some places at most, and keep every kind. -/
structure DiffersOnly (places : Location → Prop) (before after : FileSystem) : Prop where
  working : after.working = before.working
  grown : Node.Grown before.root after.root
  shapeAt : ∀ place, ¬ places place → after.root.shapeAt place = before.root.shapeAt place

/-- A place that was vacant and is a directory now, to which one of some paths leads. -/
def NewDirectory (paths : List RawPath) (before after : FileSystem) (place : Location) : Prop :=
  before.root.at? place = none ∧
    ∃ path ∈ paths, ∃ entries, after.lookup path = .ok (place, .directory entries)

/-! ### Looking up -/

/-- A path leads to a spot if its route does. -/
theorem locate_eq_ok_iff {purpose : Purpose} {spot : Spot} :
    fs.locate purpose path = .ok spot ↔
      ∃ route, Route.parse path = .ok route ∧
        Walks fs.root purpose linkLimit (fs.start route) route.parts spot := by
  rw [locate]
  cases hp : Route.parse path with
  | error fault => simp [Except.bind]
  | ok route => simp [Except.bind, follow, start, walk_eq_ok_iff]

/-- A path stands for what a walk finds. -/
theorem lookup_eq_ok_iff :
    fs.lookup path = .ok (place, node) ↔ fs.locate .reach path = .ok (.found place node) := by
  rw [lookup]
  split
  · next place' node' h => simp [h]
  · next dir name h => simp [h]
  · next fault h => simp [h]

/-- A path stands for the node at its place. -/
theorem at?_of_lookup (h : fs.lookup path = .ok (place, node)) : fs.root.at? place = some node := by
  obtain ⟨route, -, hw⟩ := locate_eq_ok_iff.mp (lookup_eq_ok_iff.mp h)
  exact hw.at?_found

/-- A path leads to a regular file if it stands for one. -/
theorem isFile_iff :
    fs.isFile path = true ↔ ∃ found, fs.lookup path = .ok found ∧ found.2.isFile = true := by
  rw [isFile]
  split
  · next place node h => simp [h]
  · next fault h => simp [h]

private theorem start_eq (h : after.working = before.working) (route : Route) :
    after.start route = before.start route := by
  rw [start, start, h]

/-- In files that keep every kind a path leads where it led. -/
theorem lookup_of_grown (hg : Node.Grown before.root after.root)
    (hw : after.working = before.working) (h : before.lookup path = .ok (place, node))
    {node' : Node} (hn : after.root.at? place = some node') :
    after.lookup path = .ok (place, node') := by
  obtain ⟨route, hp, hwalk⟩ := locate_eq_ok_iff.mp (lookup_eq_ok_iff.mp h)
  refine lookup_eq_ok_iff.mpr (locate_eq_ok_iff.mpr ⟨route, hp, ?_⟩)
  rw [start_eq hw]
  exact hwalk.grown hg (.found hn)

/-- A path leads through every path that it continues after a slash, and that is a directory. -/
theorem isDirectory_of_lookup_append {front rest : RawPath} (hf : EndsInName front)
    (h : fs.lookup (front ++ slash :: rest) = .ok (place, node)) : fs.isDirectory front = true := by
  obtain ⟨route, hp, hw⟩ := locate_eq_ok_iff.mp (lookup_eq_ok_iff.mp h)
  obtain ⟨-, -, -, rfl⟩ := Route.parse_eq_ok_iff.mp hp
  rw [Route.ofBytes_append hf rest] at hw
  obtain ⟨fewer, mid, entries, hfront, -⟩ := hw.passesDirectory (Route.parts_ne_nil rest)
  have hl : fs.lookup front = .ok (mid, .directory entries) :=
    lookup_eq_ok_iff.mpr (locate_eq_ok_iff.mpr ⟨_, Route.parse_of_append hf hp, hfront⟩)
  rw [isDirectory, hl]
  rfl

/-- An absolute path leads to the same place from every directory. -/
theorem lookup_within_of_absolute (h : path.head? = some slash) (dir : Location) :
    (fs.within dir).lookup path = fs.lookup path := by
  have hlocate : (fs.within dir).locate .reach path = fs.locate .reach path := by
    rw [locate, locate]
    cases hp : Route.parse path with
    | error fault => rfl
    | ok route =>
      obtain ⟨-, -, -, rfl⟩ := Route.parse_eq_ok_iff.mp hp
      have habsolute : (Route.ofBytes path).absolute = true := decide_eq_true h
      simp only [Except.bind, follow, habsolute, ↓reduceIte]
      rfl
  rw [lookup, lookup, hlocate]

/-- A dot and a slash before a relative path make no difference, unless they make it too long. -/
theorem lookup_selfName (hr : path.head? ≠ some slash) (hne : path ≠ [])
    (hl : (selfName ++ slash :: path).length < pathLimit) :
    fs.lookup (selfName ++ slash :: path) = fs.lookup path := by
  by_cases hnul : path.contains 0 = true
  -- no call takes either of the two
  · have hnul' : (selfName ++ slash :: path).contains 0 = true := by
      simpa [selfName, slash] using hnul
    rw [lookup, lookup, locate, locate, Route.parse, Route.parse, if_pos hnul, if_pos hnul']
  rw [Bool.not_eq_true] at hnul
  have hp : Route.parse path = .ok (Route.ofBytes path) := by
    refine Route.parse_eq_ok_iff.mpr ⟨hnul, ?_, hne, rfl⟩
    simp only [List.length_append, List.length_cons] at hl
    omega
  have hname : EndsInName selfName := ⟨[], 0x2e, rfl, by decide⟩
  have hroute : Route.ofBytes (selfName ++ slash :: path) =
      ⟨(Route.ofBytes path).absolute, selfName :: (Route.ofBytes path).parts⟩ := by
    have habsolute : (Route.ofBytes path).absolute = false := decide_eq_false hr
    rw [Route.ofBytes_append hname, habsolute]
    rfl
  have hparse : Route.parse (selfName ++ slash :: path) =
      .ok ⟨(Route.ofBytes path).absolute, selfName :: (Route.ofBytes path).parts⟩ := by
    refine Route.parse_eq_ok_iff.mpr ⟨?_, hl, by simp, hroute⟩
    simpa [selfName, slash] using hnul
  have hlocate : fs.locate .reach (selfName ++ slash :: path) = fs.locate .reach path := by
    rw [locate, locate, hparse, hp]
    exact walk_selfName (Route.parts_ne_nil path)
  rw [lookup, lookup, hlocate]

/-! ### Differences -/

/-- Files do not differ from themselves. -/
theorem DiffersOnly.refl (places : Location → Prop) (fs : FileSystem) : DiffersOnly places fs fs :=
  ⟨rfl, .refl _, fun _ _ => rfl⟩

/-- Differences add up. -/
theorem DiffersOnly.trans {places : Location → Prop} {first second third : FileSystem}
    (h : DiffersOnly places first second) (h' : DiffersOnly places second third) :
    DiffersOnly places first third where
  working := h'.working.trans h.working
  grown := h.grown.trans h'.grown
  shapeAt place hp := (h'.shapeAt place hp).trans (h.shapeAt place hp)

/-- Files that differ at some places differ at more places at most. -/
theorem DiffersOnly.mono {places places' : Location → Prop} (h : DiffersOnly places before after)
    (hp : ∀ place, places place → places' place) : DiffersOnly places' before after where
  working := h.working
  grown := h.grown
  shapeAt place hn := h.shapeAt place fun hp' => hn (hp place hp')

/-- Putting a leaf changes the files at its place only, if it takes a vacancy or keeps the kind. -/
theorem differsOnly_set {new : Node} (room : fs.root.HasRoom place) (hnew : new.IsLeaf)
    (hg : Node.Grown fs.root (fs.root.put place new)) :
    DiffersOnly (· = place) fs (fs.set place new) where
  working := rfl
  grown := hg
  shapeAt other ho := by
    rw [set, Node.shapeAt_put room hnew, if_neg ho]

/-- A path that leads to a place leads there still, to what is there now. -/
theorem DiffersOnly.lookup {places : Location → Prop} (h : DiffersOnly places before after)
    (hl : before.lookup path = .ok (place, node)) :
    ∃ node', after.lookup path = .ok (place, node') ∧ node'.kind = node.kind := by
  obtain ⟨node', hn, hk⟩ := h.grown place node (at?_of_lookup hl)
  exact ⟨node', lookup_of_grown h.grown h.working hl hn, hk⟩

/-- A path that leads to a place without a difference finds the same shape there. -/
theorem DiffersOnly.lookup_shape {places : Location → Prop} (h : DiffersOnly places before after)
    (hp : ¬ places place) (hl : before.lookup path = .ok (place, node)) :
    ∃ node', after.lookup path = .ok (place, node') ∧ node'.shape = node.shape := by
  obtain ⟨node', hl', -⟩ := h.lookup hl
  have hs := h.shapeAt place hp
  rw [Node.shapeAt, Node.shapeAt, at?_of_lookup hl, at?_of_lookup hl'] at hs
  exact ⟨node', hl', Option.some.inj hs⟩

/-- At a place without a difference the same is found, unless it is a directory. -/
theorem DiffersOnly.at?_eq_some_iff {places : Location → Prop} (h : DiffersOnly places before after)
    (hp : ¬ places place) (hn : node.isDirectory = false) :
    after.root.at? place = some node ↔ before.root.at? place = some node := by
  rw [← Node.shapeAt_eq_some_iff hn, ← Node.shapeAt_eq_some_iff hn, h.shapeAt place hp]

/-! ### Writing and appending -/

/-- A file with given bytes, or a device. -/
def IsWritten (content : ByteArray) (node : Node) : Prop :=
  (∃ executable, node = .file content executable) ∨ ∃ device, node = .device device

private theorem IsWritten.isLeaf {content : ByteArray} (h : IsWritten content node) :
    node.IsLeaf ∧ node.isDirectory = false := by
  rcases h with ⟨executable, rfl⟩ | ⟨device, rfl⟩
  · exact ⟨Node.isLeaf_file _ _, rfl⟩
  · exact ⟨Node.isLeaf_device _, rfl⟩

private theorem appended_eq_ok {node new : Node} {bytes : ByteArray}
    (h : appended node bytes = .ok new) : node.IsLeaf ∧ new.kind = node.kind ∧
      ((∃ content executable, node = .file content executable ∧
          new = .file (content ++ bytes) executable) ∨
        ∃ device, node = .device device ∧ new = .device device) := by
  cases node with
  | file content executable =>
    cases h
    exact ⟨Node.isLeaf_file _ _, rfl, .inl ⟨content, executable, rfl, rfl⟩⟩
  | device device =>
    refine ⟨Node.isLeaf_device _, ?_⟩
    cases device with
    | null =>
      cases h
      exact ⟨rfl, .inr ⟨_, rfl, rfl⟩⟩
    | full =>
      rw [appended] at h
      split at h
      · cases h
        exact ⟨rfl, .inr ⟨_, rfl, rfl⟩⟩
      · cases h
  | link target => cases h
  | directory entries => cases h

private theorem appended_emptied_eq_ok {node new : Node} {content : ByteArray}
    (h : appended (emptied node) content = .ok new) :
    node.IsLeaf ∧ new.kind = node.kind ∧ IsWritten content new := by
  obtain ⟨hleaf, hk, hnew⟩ := appended_eq_ok h
  cases node with
  | file old executable =>
    refine ⟨Node.isLeaf_file _ _, hk, .inl ⟨executable, ?_⟩⟩
    rcases hnew with ⟨bytes, mode, he, rfl⟩ | ⟨device, he, -⟩
    · cases he
      rw [ByteArray.empty_append]
    · cases he
  | device device =>
    refine ⟨Node.isLeaf_device _, hk, .inr ?_⟩
    rcases hnew with ⟨bytes, mode, he, -⟩ | ⟨device', he, rfl⟩
    · cases he
    · exact ⟨device', rfl⟩
  | link target => rcases hnew with ⟨_, _, he, -⟩ | ⟨_, he, -⟩ <;> cases he
  | directory entries => rcases hnew with ⟨_, _, he, -⟩ | ⟨_, he, -⟩ <;> cases he

/-- Writing changes the place that the path leads to afterwards, and no other. A device that is
there was there before. -/
theorem write_eq_ok {content : ByteArray} (h : fs.write path content = .ok after) :
    ∃ place node, DiffersOnly (· = place) fs after ∧ after.lookup path = .ok (place, node) ∧
      IsWritten content node ∧
      ∀ device, node = .device device → fs.root.at? place = some (.device device) := by
  rw [write] at h
  split at h
  · next place old hfound =>
    cases hnew : appended (emptied old) content with
    | error fault =>
      rw [hnew] at h
      cases h
    | ok new =>
      rw [hnew] at h
      cases h
      obtain ⟨hold, hk, hw⟩ := appended_emptied_eq_ok hnew
      obtain ⟨route, hp, hwalk⟩ := locate_eq_ok_iff.mp hfound
      have room := Node.HasRoom.replace hwalk.at?_found hold
      have hat : (fs.set place new).root.at? place = some new :=
        Node.at?_put room hw.isLeaf.1 hw.isLeaf.2
      have hg : Node.Grown fs.root (fs.set place new).root :=
        Node.grown_put_kind room hw.isLeaf.1 hw.isLeaf.2 hwalk.at?_found hk
      have hl : fs.lookup path = .ok (place, old) :=
        lookup_eq_ok_iff.mpr (locate_eq_ok_iff.mpr ⟨route, hp, hwalk.reach_of_make⟩)
      have hd := differsOnly_set room hw.isLeaf.1 hg
      refine ⟨place, new, hd, lookup_of_grown hg rfl hl hat, hw, ?_⟩
      rintro device rfl
      rw [hwalk.at?_found, Node.eq_device_of_kind hk.symm]
  · next dir name hvacant =>
    cases h
    obtain ⟨route, hp, hwalk⟩ := locate_eq_ok_iff.mp hvacant
    obtain ⟨⟨entries, hdir⟩, hv⟩ := hwalk.at?_vacant
    have room := Node.HasRoom.add hdir ((Node.at?_concat hdir name).symm.trans hv)
    have hleaf := Node.isLeaf_file content false
    have hat := Node.at?_put room hleaf rfl
    have hg := Node.grown_put_vacant room hleaf hv
    refine ⟨dir ++ [name], .file content false, differsOnly_set room hleaf hg, ?_, .inl ⟨_, rfl⟩,
      fun _ h => by cases h⟩
    refine lookup_eq_ok_iff.mpr (locate_eq_ok_iff.mpr ⟨route, hp, ?_⟩)
    exact hwalk.reach_of_make.grown hg (.taken hat (by simp))
  · cases h

/-- Appending changes the place of the opened file only. -/
theorem append_eq_ok {bytes : ByteArray} (h : fs.append place bytes = .ok after) :
    DiffersOnly (· = place) fs after := by
  rw [append] at h
  split at h
  · next node hat =>
    cases hnew : appended node bytes with
    | error fault =>
      rw [hnew] at h
      cases h
    | ok new =>
      rw [hnew] at h
      cases h
      obtain ⟨hleaf, hk, hnode⟩ := appended_eq_ok hnew
      have room := Node.HasRoom.replace hat hleaf
      have hw : new.IsLeaf ∧ new.isDirectory = false := by
        rcases hnode with ⟨_, _, -, rfl⟩ | ⟨_, -, rfl⟩
        · exact ⟨Node.isLeaf_file _ _, rfl⟩
        · exact ⟨Node.isLeaf_device _, rfl⟩
      exact differsOnly_set room hw.1 (Node.grown_put_kind room hw.1 hw.2 hat hk)
  · cases h

/-- Bytes appended to a file follow its own. -/
theorem append_file {content : ByteArray} {executable : Bool}
    (h : fs.root.at? place = some (.file content executable)) (bytes : ByteArray) :
    ∃ after, fs.append place bytes = .ok after ∧
      after.root.at? place = some (.file (content ++ bytes) executable) := by
  refine ⟨fs.set place (.file (content ++ bytes) executable), by rw [append, h]; rfl, ?_⟩
  exact Node.at?_put (.replace h (Node.isLeaf_file _ _)) (Node.isLeaf_file _ _) rfl

/-- Appending pieces changes the place of the opened file only. -/
theorem differsOnly_appendAll (fs : FileSystem) (place : Location) (pieces : List ByteArray) :
    DiffersOnly (· = place) fs (fs.appendAll place pieces) := by
  induction pieces generalizing fs with
  | nil => exact .refl _ fs
  | cons piece pieces ih =>
    rw [appendAll, List.foldl_cons]
    split
    · next after h => exact (append_eq_ok h).trans (ih after)
    · exact ih fs

/-- Pieces appended to a file follow its own bytes, in their order. -/
theorem at?_appendAll {content : ByteArray} {executable : Bool}
    (h : fs.root.at? place = some (.file content executable)) (pieces : List ByteArray) :
    (fs.appendAll place pieces).root.at? place =
      some (.file (pieces.foldl (· ++ ·) content) executable) := by
  induction pieces generalizing fs content with
  | nil => exact h
  | cons piece pieces ih =>
    obtain ⟨after, ha, hat⟩ := append_file h piece
    rw [appendAll, List.foldl_cons, ha]
    exact ih hat

/-! ### Making directories -/

/-- Without an empty part at its end a route has nothing to be trimmed. -/
theorem trimmed_parts {route : Route} {front : List Name} {last : Name}
    (h : route.parts = front ++ [last]) (hl : last ≠ []) :
    (route.parts.reverse.dropWhile (·.isEmpty)).reverse = route.parts := by
  simp [h, hl]

/-- A new directory in a vacancy changes nothing else. -/
theorem set_directory {dir : Location} {name : Name} {entries : List (Name × Node)}
    (hdir : fs.root.at? dir = some (.directory entries)) (hv : fs.root.at? (dir ++ [name]) = none) :
    DiffersOnly (· = dir ++ [name]) fs (fs.set (dir ++ [name]) (.directory [])) ∧
      ∃ inner, (fs.set (dir ++ [name]) (.directory [])).root.at? (dir ++ [name]) =
        some (.directory inner) := by
  have room := Node.HasRoom.add hdir ((Node.at?_concat hdir name).symm.trans hv)
  have hnew := Node.isLeaf_directory_nil
  refine ⟨differsOnly_set room hnew (Node.grown_put_vacant room hnew hv), ?_⟩
  rw [← Node.shapeAt_eq_directory_iff, set, Node.shapeAt_put room hnew, if_pos rfl]
  rfl

/-- Making a directory fills a vacancy, to which the path then leads. -/
theorem makeDirectory_eq_ok (hname : EndsInName path) (h : fs.makeDirectory path = .ok after) :
    ∃ place, fs.root.at? place = none ∧ DiffersOnly (· = place) fs after ∧
      ∃ entries, after.lookup path = .ok (place, .directory entries) := by
  rw [makeDirectory] at h
  cases hp : Route.parse path with
  | error fault =>
    rw [hp] at h
    cases h
  | ok route =>
    obtain ⟨-, -, -, rfl⟩ := Route.parse_eq_ok_iff.mp hp
    obtain ⟨front, last, hparts, hl⟩ := Route.exists_last_part hname
    simp only [hp, bind, Except.bind, trimmed_parts hparts hl] at h
    rw [hparts, List.getLast?_concat] at h
    dsimp only at h
    split at h
    · split at h <;> cases h
    cases hf : fs.follow .entry ⟨(Route.ofBytes path).absolute, front ++ [last]⟩ with
    | error fault =>
      rw [hf] at h
      cases h
    | ok spot =>
      rw [hf] at h
      cases spot with
      | found place node => cases h
      | vacant dir name =>
        cases h
        rw [← hparts] at hf
        have hwalk := walk_eq_ok_iff.mp hf
        obtain ⟨⟨entries, hdir⟩, hv⟩ := hwalk.at?_vacant
        obtain ⟨hd, inner, hat⟩ := set_directory hdir hv
        refine ⟨dir ++ [name], hv, hd, inner, ?_⟩
        refine lookup_eq_ok_iff.mpr (locate_eq_ok_iff.mpr ⟨_, hp, ?_⟩)
        exact hwalk.reach_of_entry_vacant.grown hd.grown (.taken hat (by simp))

/-- What was missing in grown files was missing before they grew. -/
theorem vacant_of_grown (hg : Node.Grown before.root after.root)
    (h : after.root.at? place = none) : before.root.at? place = none := by
  cases hb : before.root.at? place with
  | none => rfl
  | some node =>
    obtain ⟨node', ha, -⟩ := hg place node hb
    rw [h] at ha
    cases ha

/-- A new directory is one still after further changes, and after changes that came before. -/
theorem NewDirectory.widen {paths paths' : List RawPath} {places : Location → Prop}
    {first last : FileSystem} (h : NewDirectory paths before after place)
    (hg : Node.Grown first.root before.root) (hd : DiffersOnly places after last)
    (hp : ∀ path ∈ paths, path ∈ paths') : NewDirectory paths' first last place := by
  obtain ⟨hv, path, hmem, entries, hl⟩ := h
  obtain ⟨node, hl', hk⟩ := hd.lookup hl
  obtain ⟨entries', rfl⟩ := Node.eq_directory_of_kind hk
  exact ⟨vacant_of_grown hg hv, path, hp path hmem, entries', hl'⟩

/-- Directories that are made in a row were missing, and the paths lead to them. -/
theorem differsOnly_makeChain (paths : List RawPath) (hnames : ∀ path ∈ paths, EndsInName path)
    (fs : FileSystem) :
    DiffersOnly (NewDirectory paths fs (fs.makeChain paths).1) fs (fs.makeChain paths).1 := by
  induction paths with
  | nil => exact .refl _ fs
  | cons path above ih =>
    have habove := ih fun other ho => hnames other (by simp [ho])
    have hname := hnames path (by simp)
    rw [makeChain]
    split
    · next made hmade =>
      obtain ⟨place, hv, hd, entries, hl⟩ := makeDirectory_eq_ok hname hmade
      refine hd.mono ?_
      rintro _ rfl
      exact ⟨hv, path, by simp, entries, hl⟩
    · split
      · next middle fault hchain =>
        rw [hchain] at habove
        exact habove.mono fun place h =>
          h.widen (.refl _) (.refl (fun _ => False) _) (by simp +contextual)
      · next middle hchain =>
        rw [hchain] at habove
        split
        · next made hmade =>
          obtain ⟨place, hv, hd, entries, hl⟩ := makeDirectory_eq_ok hname hmade
          refine (habove.mono fun place h => h.widen (.refl _) hd (by simp +contextual)).trans
            (hd.mono ?_)
          rintro _ rfl
          exact ⟨vacant_of_grown habove.grown hv, path, by simp, entries, hl⟩
        · exact habove.mono fun place h =>
            h.widen (.refl _) (.refl (fun _ => False) _) (by simp +contextual)
    · exact .refl _ fs

/-- Making directories in a row fails at one that is no directory. -/
theorem makeChain_eq_error {paths : List RawPath} {fault : Fault}
    (h : fs.makeChain paths = (after, .error fault)) :
    ∃ path ∈ paths, after.isDirectory path = false := by
  induction paths generalizing after fault with
  | nil => cases h
  | cons path above ih =>
    rw [makeChain] at h
    split at h
    · cases h
    · split at h
      · next middle fault' hchain =>
        cases h
        obtain ⟨other, hmem, hd⟩ := ih hchain
        exact ⟨other, by simp [hmem], hd⟩
      · next middle hchain =>
        split at h
        · cases h
        · split at h
          · cases h
          · next hd =>
            cases h
            exact ⟨path, by simp, by simpa using hd⟩
    · split at h
      · cases h
      · next hd =>
        cases h
        exact ⟨path, by simp, by simpa using hd⟩

/-- Somewhere in the tree there is a device. -/
def HasDevice (fs : FileSystem) : Prop := ∃ place device, fs.root.at? place = some (.device device)

/-- Files have a device only where they had one, if that holds of the places at which they
differ. -/
theorem HasDevice.of_differsOnly {places : Location → Prop} (hd : DiffersOnly places before after)
    (hp : ∀ place device, places place → after.root.at? place = some (.device device) →
      before.HasDevice) (h : after.HasDevice) : before.HasDevice := by
  obtain ⟨place, device, hat⟩ := h
  by_cases hplace : places place
  · exact hp place device hplace hat
  · exact ⟨place, device, (hd.at?_eq_some_iff hplace rfl).mp hat⟩

/-- New directories are no devices. -/
theorem HasDevice.of_newDirectory {paths : List RawPath}
    (hd : DiffersOnly (NewDirectory paths before after) before after) (h : after.HasDevice) :
    before.HasDevice := by
  refine h.of_differsOnly hd fun place device hnew hat => ?_
  obtain ⟨-, path, -, entries, hl⟩ := hnew
  rw [at?_of_lookup hl] at hat
  cases hat

/-- Writing makes no device. -/
theorem HasDevice.of_write {content : ByteArray} (h : fs.write path content = .ok after)
    (hd : after.HasDevice) : fs.HasDevice := by
  obtain ⟨place, node, hdiffers, hl, -, hdevice⟩ := write_eq_ok h
  refine hd.of_differsOnly hdiffers ?_
  rintro _ device rfl hat
  rw [at?_of_lookup hl, Option.some.injEq] at hat
  exact ⟨_, device, hdevice device hat⟩

/-! ### Regular files -/

/-- The bytes of a path are those of the file that it stands for. -/
theorem fileContent?_eq_some_iff {content : ByteArray} :
    fs.fileContent? path = some content ↔
      ∃ place executable, fs.lookup path = .ok (place, .file content executable) := by
  rw [fileContent?]
  split
  · next place bytes executable h => simp [h]
  · next hno =>
    constructor
    · intro h
      cases h
    · rintro ⟨place, executable, h⟩
      exact absurd h (hno place content executable)

/-- A path that stands for a file can be written to. -/
theorem exists_write_of_lookup_file {old : ByteArray} {executable : Bool} (content : ByteArray)
    (h : fs.lookup path = .ok (place, .file old executable)) :
    ∃ after, fs.write path content = .ok after := by
  obtain ⟨route, hp, hw⟩ := locate_eq_ok_iff.mp (lookup_eq_ok_iff.mp h)
  have hl : fs.locate .make path = .ok (.found place (.file old executable)) :=
    locate_eq_ok_iff.mpr ⟨route, hp, hw.make_of_reach (by simp)⟩
  exact ⟨fs.set place (.file (ByteArray.empty ++ content) executable), by rw [write, hl]; rfl⟩

/-- New directories take no path away from the file that it stands for. -/
theorem lookup_file_of_newDirectory {paths : List RawPath} {content : ByteArray}
    {executable : Bool} (hd : DiffersOnly (NewDirectory paths before after) before after)
    (h : before.lookup path = .ok (place, .file content executable)) :
    after.lookup path = .ok (place, .file content executable) := by
  have hp : ¬ NewDirectory paths before after place := by
    rintro ⟨hv, -⟩
    rw [at?_of_lookup h] at hv
    cases hv
  obtain ⟨node, hl, hs⟩ := hd.lookup_shape hp h
  rw [hl, Node.eq_of_shape hs rfl]

end FileSystem

end LocaleRelay.Files
