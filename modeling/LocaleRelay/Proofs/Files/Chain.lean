import LocaleRelay.Proofs.Files.Unlinked

/-!
# Making directories along names

In files without links, directories that are made in a row along names are all there afterwards, if
nothing but directories is on their way, and then nothing has changed but that the missing ones are
new. If something else is on their way it is met before any directory is made, and everything stays
as it was.
-/

namespace LocaleRelay.Files

/-- The directories along names, the last one first. -/
def Path.chain (names : List Name) : List RawPath := Path.ancestors (Path.ofNames names)

namespace FileSystem

variable {fs before after : FileSystem} {names front rest : List Name} {name : Name}
  {node : Node} {place : Location}

/-! ### What is on the way -/

/-- A way that is clear for some names is clear for the first of them. -/
theorem Clear.of_append (h : fs.Clear (front ++ rest)) : fs.Clear front :=
  fun first hp => h first (hp.trans (List.prefix_append front rest))

/-- Nothing but directories is on the way to a directory. -/
theorem clear_of_directory {entries : List (Name × Node)}
    (hat : fs.root.at? (fs.under names) = some (.directory entries)) : fs.Clear names := by
  intro front hp node hnode
  by_cases he : front = names
  · rw [he, hat] at hnode
    cases hnode
    rfl
  · obtain ⟨inner, hfront⟩ := exists_directory_of_proper hp he hat
    rw [hfront] at hnode
    cases hnode
    rfl

/-- Nothing is on the way after a name that is missing in a directory. -/
theorem clear_of_missing {entries : List (Name × Node)}
    (hfront : fs.root.at? (fs.under front) = some (.directory entries))
    (hat : fs.root.at? (fs.under (front ++ [name])) = none) : fs.Clear (front ++ name :: rest) := by
  intro first hp node hnode
  rw [List.append_cons] at hp
  rcases List.prefix_or_prefix_of_prefix hp (List.prefix_append (front ++ [name]) rest) with h | h
  · rcases List.prefix_concat_iff.mp h with rfl | h
    · rw [hat] at hnode
      cases hnode
    · exact clear_of_directory hfront first h node hnode
  · rw [at?_eq_none_of_missing h hat] at hnode
    cases hnode

/-! ### One directory -/

/-- Making the directory of a path of names is a matter of where a walk along them ends. -/
theorem makeDirectory_names (h : Path.AreNames names) (hn : names ≠ []) :
    fs.makeDirectory (Path.ofNames names) =
      match walk fs.root .entry linkLimit fs.working names with
      | .ok (.vacant dir name) => .ok (fs.set (dir ++ [name]) (.directory []))
      | .ok (.found _ _) => .error .alreadyExists
      | .error fault => .error fault := by
  obtain ⟨front, name, rfl⟩ := (List.eq_nil_or_concat names).resolve_left hn
  rw [List.concat_eq_append] at h hn ⊢
  have hname := (h.each name (by simp)).isEntryName
  obtain ⟨hne, hself⟩ : name ≠ [] ∧ name ≠ selfName := by
    simpa [staysPut] using hname.moves
  have htrimmed := @trimmed_parts ⟨false, _⟩ front _ rfl hne
  rw [makeDirectory, h.parse hn]
  simp only [bind, Except.bind, htrimmed]
  rw [List.getLast?_concat]
  simp only [hself, hname.downwards, or_self, ↓reduceIte, follow, Bool.false_eq_true]
  cases walk fs.root .entry linkLimit fs.working (front ++ [name]) with
  | error fault => rfl
  | ok spot => cases spot <;> rfl

/-- A path of names that is taken makes no directory. -/
theorem Plain.makeDirectory_taken (hfs : fs.Plain) (h : Path.AreNames names) (hn : names ≠ [])
    (hat : fs.root.at? (fs.under names) = some node) :
    fs.makeDirectory (Path.ofNames names) = .error .alreadyExists := by
  rw [makeDirectory_names h hn, walk_found hfs h.each hn hat]

/-- A directory is made where only the last name is missing. -/
theorem makeDirectory_vacant {entries : List (Name × Node)} (h : Path.AreNames (front ++ [name]))
    (hfront : fs.root.at? (fs.under front) = some (.directory entries))
    (hat : fs.root.at? (fs.under (front ++ [name])) = none) :
    fs.makeDirectory (Path.ofNames (front ++ [name])) =
      .ok (fs.set (fs.under (front ++ [name])) (.directory [])) := by
  rw [makeDirectory_names h (by simp), walk_vacant h.each hfront hat, under_concat]

/-! ### Directories in a row -/

private theorem chain_nil : Path.chain [] = [] := Path.ancestors_ofNames_nil

private theorem chain_concat (h : Path.AreNames (front ++ [name])) :
    Path.chain (front ++ [name]) = Path.ofNames (front ++ [name]) :: Path.chain front :=
  Path.ancestors_ofNames_concat h.of_append.each (h.each name (by simp))

private theorem exists_chain_eq_cons (h : Path.AreNames names) (hn : names ≠ []) :
    ∃ above, Path.chain names = Path.ofNames names :: above := by
  obtain ⟨front, name, rfl⟩ := (List.eq_nil_or_concat names).resolve_left hn
  rw [List.concat_eq_append] at h ⊢
  exact ⟨_, chain_concat h⟩

/-- The directories along some names are there, and nothing has changed but that missing ones were
made. -/
structure Made (names : List Name) (before after : FileSystem) : Prop where
  plain : after.Plain
  working : after.working = before.working
  directory : ∃ entries, after.root.at? (before.under names) = some (.directory entries)
  keeps : ∀ place, after.root.shapeAt place = before.root.shapeAt place ∨
    before.root.at? place = none ∧ ∃ front, front <+: names ∧ place = before.under front
  idle : ∀ node, before.root.at? (before.under names) = some node → after = before

/-- A directory that is there need not be made. -/
theorem Made.refl (hfs : fs.Plain)
    (hat : ∃ entries, fs.root.at? (fs.under names) = some (.directory entries)) :
    Made names fs fs where
  plain := hfs
  working := rfl
  directory := hat
  keeps _ := .inl rfl
  idle _ _ := rfl

/-- Files with the same working directory have the same places under names. -/
theorem under_eq (h : after.working = before.working) (names : List Name) :
    after.under names = before.under names := by
  rw [under, under, h]

/-- Files without links stay without them if they change where no link comes. -/
theorem Plain.of_differsOnly (hfs : before.Plain) {places : Location → Prop}
    (hd : DiffersOnly places before after)
    (hp : ∀ place target, places place → after.root.at? place ≠ some (.link target)) :
    after.Plain where
  unlinked place target hat := by
    by_cases hplace : places place
    · exact hp place target hplace hat
    · exact hfs.unlinked place target ((hd.at?_eq_some_iff hplace rfl).mp hat)
  working := by
    obtain ⟨entries, hat⟩ := hfs.working
    obtain ⟨node, hnode, hk⟩ := hd.grown _ _ hat
    obtain ⟨inner, rfl⟩ := Node.eq_directory_of_kind hk
    exact ⟨inner, by rw [hd.working]; exact hnode⟩

/-- Below the directories that were made nothing has changed. -/
theorem Made.shapeAt_concat (h : Made front before after) (name : Name) :
    after.root.shapeAt (after.under (front ++ [name])) =
      before.root.shapeAt (before.under (front ++ [name])) := by
  rw [under_eq h.working]
  rcases h.keeps (before.under (front ++ [name])) with hs | ⟨-, first, hp, hunder⟩
  · exact hs
  · have hlength := hp.length_le
    rw [← under_injective before hunder, List.length_append, List.length_singleton] at hlength
    omega

/-- After the directories along some names the next one can be made. -/
theorem Made.concat (h : Made front before after) (hnames : Path.AreNames (front ++ [name]))
    (hv : before.root.at? (before.under (front ++ [name])) = none) :
    ∃ made, after.makeDirectory (Path.ofNames (front ++ [name])) = .ok made ∧
      Made (front ++ [name]) before made := by
  obtain ⟨entries, hfront⟩ := h.directory
  rw [← under_eq h.working] at hfront
  have hat : after.root.at? (after.under (front ++ [name])) = none := by
    rwa [← Node.shapeAt_eq_none_iff, h.shapeAt_concat name, Node.shapeAt_eq_none_iff]
  refine ⟨_, makeDirectory_vacant hnames hfront hat, ?_⟩
  obtain ⟨hd, inner, hinner⟩ := set_directory hfront (under_concat after front name ▸ hat)
  rw [← under_concat, under_eq h.working] at hd hinner
  rw [under_eq h.working]
  exact {
    plain := by
      refine h.plain.of_differsOnly hd ?_
      rintro _ target rfl hlink
      rw [hinner] at hlink
      cases hlink
    working := h.working
    directory := ⟨inner, hinner⟩
    keeps := by
      intro place
      by_cases hplace : place = before.under (front ++ [name])
      · exact .inr ⟨hplace ▸ hv, _, List.prefix_refl _, hplace⟩
      · rw [hd.shapeAt place hplace]
        rcases h.keeps place with hs | ⟨hnone, first, hp, hunder⟩
        · exact .inl hs
        · exact .inr ⟨hnone, first, hp.trans (List.prefix_append _ _), hunder⟩
    idle := by
      intro node hnode
      rw [hv] at hnode
      cases hnode }

private theorem Plain.makeDirectory_missing (hfs : fs.Plain) {entries : List (Name × Node)}
    (h : Path.AreNames (front ++ name :: rest)) (hr : rest ≠ [])
    (hfront : fs.root.at? (fs.under front) = some (.directory entries))
    (hat : fs.root.at? (fs.under (front ++ [name])) = none) :
    fs.makeDirectory (Path.ofNames (front ++ name :: rest)) = .error .notFound := by
  rw [makeDirectory_names h (by simp), walk_missing hfs h.each hr hfront hat]

private theorem Plain.makeDirectory_blocked (hfs : fs.Plain) {entries : List (Name × Node)}
    (h : Path.AreNames (front ++ name :: rest)) (hr : rest ≠ [])
    (hfront : fs.root.at? (fs.under front) = some (.directory entries))
    (hat : fs.root.at? (fs.under (front ++ [name])) = some node) (hdir : node.isDirectory = false) :
    fs.makeDirectory (Path.ofNames (front ++ name :: rest)) = .error .notDirectory := by
  rw [makeDirectory_names h (by simp), walk_blocked hfs h.each hr hfront hat hdir]

/-- Directories in a row along names are made where nothing else is on the way. -/
theorem Plain.makeChain_clear (hfs : fs.Plain) (h : Path.AreNames names) (hc : fs.Clear names) :
    ∃ after, fs.makeChain (Path.chain names) = (after, .ok ()) ∧ Made names fs after := by
  induction names using List.reverseRecOn with
  | nil =>
    refine ⟨fs, by rw [chain_nil]; rfl, .refl hfs ?_⟩
    simpa [under] using hfs.working
  | append_singleton front name ih =>
    rw [chain_concat h, makeChain]
    cases hat : fs.root.at? (fs.under (front ++ [name])) with
    | some node =>
      have hdir := hc _ (List.prefix_refl _) node hat
      have hthere := (hfs.isDirectory_names h (by simp)).mpr ⟨node, hat, hdir⟩
      rw [hfs.makeDirectory_taken h (by simp) hat]
      simp only [hthere, ↓reduceIte]
      obtain ⟨entries, rfl⟩ := Node.isDirectory_iff.mp hdir
      exact ⟨fs, rfl, .refl hfs ⟨entries, hat⟩⟩
    | none =>
      -- the names before the last one are all there, or one of them is the first that is missing
      cases hfs.trail front with
      | whole hfront =>
        obtain ⟨made, hmade, hspec⟩ := (Made.refl hfs ⟨_, hfront⟩).concat h hat
        rw [hmade]
        exact ⟨made, rfl, hspec⟩
      | @missing first rest other entries hfirst hother =>
        obtain ⟨after, hchain, hafter⟩ := ih h.of_append hc.of_append
        obtain ⟨made, hmade, hspec⟩ := hafter.concat h hat
        have hnames : first ++ other :: rest ++ [name] = first ++ other :: (rest ++ [name]) := by
          simp
        have hnotFound := hfs.makeDirectory_missing (hnames ▸ h) (by simp) hfirst hother
        rw [← hnames] at hnotFound
        rw [hnotFound]
        simp only [hchain, hmade]
        exact ⟨made, rfl, hspec⟩
      | @blocked first rest other entries node hfirst hother hdir =>
        have hbegins : first ++ [other] <+: first ++ other :: rest ++ [name] := by
          simp [List.prefix_append_right_inj]
        rw [hc _ hbegins node hother] at hdir
        cases hdir

private theorem makeChain_of_error {path : RawPath} {above : List RawPath} {fault : Fault}
    (h : fs.makeDirectory path = .error fault) (hf : fault ≠ .notFound)
    (hd : fs.isDirectory path = false) :
    fs.makeChain (path :: above) = (fs, .error fault) := by
  rw [makeChain, h]
  split
  · next he => cases he
  · next he => exact absurd (Except.error.inj he) hf
  · next he =>
    rw [← Except.error.inj he, hd]
    rfl

/-- No directory along names is made where something else is on the way. -/
theorem Plain.makeChain_blocked (hfs : fs.Plain) (h : Path.AreNames names)
    (hc : ¬ fs.Clear names) :
    ∃ fault, fs.makeChain (Path.chain names) = (fs, .error fault) := by
  cases hfs.trail names with
  | whole hat => exact absurd (clear_of_directory hat) hc
  | missing hfront hat => exact absurd (clear_of_missing hfront hat) hc
  | @blocked front rest name entries node hfront hat hdir =>
    have hn : front ++ name :: rest ≠ [] := by simp
    -- a directory at the end would leave the way to it clear
    have hno : fs.isDirectory (Path.ofNames (front ++ name :: rest)) = false := by
      rw [Bool.eq_false_iff]
      intro hthere
      obtain ⟨inner, hinner, hisdir⟩ := (hfs.isDirectory_names h hn).mp hthere
      obtain ⟨entries, rfl⟩ := Node.isDirectory_iff.mp hisdir
      exact hc (clear_of_directory hinner)
    obtain ⟨above, habove⟩ := exists_chain_eq_cons h hn
    rw [habove]
    by_cases hr : rest = []
    · subst hr
      exact ⟨_, makeChain_of_error (hfs.makeDirectory_taken h hn hat) (by simp) hno⟩
    · have hfault := hfs.makeDirectory_blocked h hr hfront hat hdir
      exact ⟨_, makeChain_of_error hfault (by simp) hno⟩

end FileSystem

end LocaleRelay.Files
