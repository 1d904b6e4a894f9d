import LocaleRelay.Files.Route
import LocaleRelay.Proofs.Files.Tree

/-!
# Walks as derivations

A walk that ends somewhere is a chain of steps, one for each part of its route and one for each
link. The steps are an inductive relation, equivalent to the function that walks, so that what holds
of every walk is shown step by step: a walk finds what is at its place, survives a tree that keeps
every kind, finds what is put where it ended in a vacancy, and reaches a directory after each
beginning of its route.
-/

namespace LocaleRelay.Files

/-- What a walk may follow after a link, with so many links left to follow. -/
private def beyond (tree : Node) (purpose : Purpose) :
    Nat → Location → List Name → Except Fault Spot
  | 0 => fun _ _ => .error .tooManyLinks
  | links + 1 => walk tree purpose links

private theorem walk_eq (tree : Node) (purpose : Purpose) (links : Nat) :
    walk tree purpose links = walkParts tree purpose (beyond tree purpose links) := by
  cases links <;> rfl

/-- Whether a part of a route is a name to be looked up: it moves, and not upwards, no slash after
it asks for a directory where a file is to be made, and it is not too long. -/
structure IsEntryName (purpose : Purpose) (part : Name) (rest : List Name) : Prop where
  moves : staysPut part = false
  downwards : part ≠ upName
  unslashed : ¬ (purpose = .make ∧ rest ≠ [] ∧ rest.all (·.isEmpty))
  short : part.length ≤ nameLimit

/-- The walks that end at a spot, with the number of links that may be followed. -/
inductive Walks (tree : Node) (purpose : Purpose) : Nat → Location → List Name → Spot → Prop
  | arrive {links : Nat} {here : Location} {node : Node} :
      tree.at? here = some node → Walks tree purpose links here [] (.found here node)
  | stay {links : Nat} {here : Location} {entries : List (Name × Node)} {part : Name}
      {rest : List Name} {spot : Spot} :
      tree.at? here = some (.directory entries) → staysPut part →
      Walks tree purpose links here rest spot → Walks tree purpose links here (part :: rest) spot
  | ascend {links : Nat} {here : Location} {entries : List (Name × Node)} {rest : List Name}
      {spot : Spot} :
      tree.at? here = some (.directory entries) →
      Walks tree purpose links here.dropLast rest spot →
      Walks tree purpose links here (upName :: rest) spot
  | vacancy {links : Nat} {here : Location} {entries : List (Name × Node)} {part : Name} :
      tree.at? here = some (.directory entries) → IsEntryName purpose part [] →
      tree.at? (here ++ [part]) = none → Walks tree purpose links here [part] (.vacant here part)
  | entry {links : Nat} {here : Location} {part : Name} {target : List UInt8} :
      IsEntryName purpose part [] → tree.at? (here ++ [part]) = some (.link target) →
      purpose = .entry →
      Walks tree purpose links here [part] (.found (here ++ [part]) (.link target))
  | link {links : Nat} {here : Location} {part : Name} {rest : List Name} {target : List UInt8}
      {spot : Spot} :
      IsEntryName purpose part rest → tree.at? (here ++ [part]) = some (.link target) →
      ¬ (rest = [] ∧ purpose = .entry) →
      Walks tree purpose links (if (Route.ofBytes target).absolute then [] else here)
        ((Route.ofBytes target).parts ++ rest) spot →
      Walks tree purpose (links + 1) here (part :: rest) spot
  | last {links : Nat} {here : Location} {part : Name} {node : Node} :
      IsEntryName purpose part [] → tree.at? (here ++ [part]) = some node →
      (∀ target, node ≠ .link target) →
      Walks tree purpose links here [part] (.found (here ++ [part]) node)
  | descend {links : Nat} {here : Location} {part : Name} {rest : List Name}
      {inner : List (Name × Node)} {spot : Spot} :
      IsEntryName purpose part rest → tree.at? (here ++ [part]) = some (.directory inner) →
      rest ≠ [] → Walks tree purpose links (here ++ [part]) rest spot →
      Walks tree purpose links here (part :: rest) spot

variable {tree before after : Node} {purpose : Purpose} {links : Nat} {here : Location}
  {parts : List Name} {spot : Spot} {place : Location} {node : Node}

/-! ### Derivations and the function -/

private theorem walks_of_walkParts
    (hlink : ∀ here parts spot, beyond tree purpose links here parts = .ok spot →
      ∃ fewer, links = fewer + 1 ∧ Walks tree purpose fewer here parts spot)
    (h : walkParts tree purpose (beyond tree purpose links) here parts = .ok spot) :
    Walks tree purpose links here parts spot := by
  induction parts generalizing here with
  | nil =>
    simp only [walkParts] at h
    split at h
    · next node hat =>
      cases h
      exact .arrive hat
    · cases h
  | cons part rest ih =>
    simp only [walkParts] at h
    split at h
    case h_2 => cases h
    next entries hat =>
    have hentry : tree.at? (here ++ [part]) = Entries.find? part entries := Node.at?_concat hat part
    split at h
    · next hs => exact .stay hat hs (ih h)
    next hs =>
    split at h
    · next hu =>
      subst hu
      exact .ascend hat (ih h)
    next hu =>
    split at h
    · cases h
    next hm =>
    split at h
    · cases h
    next hl =>
    have hname : IsEntryName purpose part rest := ⟨by simpa using hs, hu, hm, Nat.le_of_not_lt hl⟩
    split at h
    · next hf =>
      split at h
      · next hr =>
        obtain rfl := List.isEmpty_iff.mp hr
        cases h
        exact .vacancy hat hname (hentry.trans hf)
      · cases h
    · next target hf =>
      split at h
      · next hr =>
        obtain rfl := List.isEmpty_iff.mp hr.1
        cases h
        exact .entry hname (hentry.trans hf) hr.2
      · next hr =>
        obtain ⟨fewer, rfl, hw⟩ := hlink _ _ _ h
        exact .link hname (hentry.trans hf) (fun he => hr ⟨List.isEmpty_iff.mpr he.1, he.2⟩) hw
    · next inner hf =>
      split at h
      · next hr =>
        obtain rfl := List.isEmpty_iff.mp hr
        cases h
        exact .last hname (hentry.trans hf) (by simp)
      · next hr =>
        exact .descend hname (hentry.trans hf) (fun he => hr (List.isEmpty_iff.mpr he)) (ih h)
    · next node hnl _ hf =>
      split at h
      · next hr =>
        obtain rfl := List.isEmpty_iff.mp hr
        cases h
        exact .last hname (hentry.trans hf) hnl
      · cases h

private theorem walks_of_walk (h : walk tree purpose links here parts = .ok spot) :
    Walks tree purpose links here parts spot := by
  induction links generalizing here parts spot with
  | zero => exact walks_of_walkParts (fun _ _ _ hb => by cases hb) h
  | succ links ih => exact walks_of_walkParts (fun _ _ _ hb => ⟨links, rfl, ih hb⟩) h

private theorem walk_of_walks (h : Walks tree purpose links here parts spot) :
    walk tree purpose links here parts = .ok spot := by
  induction h with
  | arrive hat => simp only [walk_eq, walkParts, hat]
  | stay hat hs _ ih =>
    rw [walk_eq] at ih ⊢
    simp only [walkParts, hat, hs, ↓reduceIte, ih]
  | ascend hat _ ih =>
    rw [walk_eq] at ih ⊢
    have hs : staysPut upName = false := by decide
    simp only [walkParts, hat, hs, Bool.false_eq_true, ↓reduceIte, ih]
  | vacancy hat hname hv =>
    rw [Node.at?_concat hat] at hv
    simp [walk_eq, walkParts, hat, hname.moves, hname.downwards, Nat.not_lt.mpr hname.short, hv]
  | entry hname hl hp =>
    obtain ⟨entries, hat⟩ := Node.exists_directory_of_at?_append hl
    rw [Node.at?_concat hat] at hl
    simp [walk_eq, walkParts, hat, hname.moves, hname.downwards, Nat.not_lt.mpr hname.short, hl, hp]
  | link hname hl hr _ ih =>
    obtain ⟨entries, hat⟩ := Node.exists_directory_of_at?_append hl
    rw [Node.at?_concat hat] at hl
    rw [walk_eq]
    simp only [walkParts, hat, hname.moves, Bool.false_eq_true, ↓reduceIte, hname.downwards,
      hname.unslashed, Nat.not_lt.mpr hname.short, hl, List.isEmpty_iff, hr, beyond, ih]
  | last hname hn hl =>
    obtain ⟨entries, hat⟩ := Node.exists_directory_of_at?_append hn
    rw [Node.at?_concat hat] at hn
    rw [walk_eq]
    simp only [walkParts, hat, hname.moves, Bool.false_eq_true, ↓reduceIte, hname.downwards,
      hname.unslashed, Nat.not_lt.mpr hname.short, hn, List.isEmpty_nil]
    split
    · next he => cases he
    · next target he => exact absurd (Option.some.inj he) (hl target)
    · next inner he => rw [Option.some.inj he]
    · next he => rw [Option.some.inj he]
  | descend hname hn hr _ ih =>
    obtain ⟨entries, hat⟩ := Node.exists_directory_of_at?_append hn
    rw [Node.at?_concat hat] at hn
    rw [walk_eq] at ih ⊢
    simp only [walkParts, hat, hname.moves, Bool.false_eq_true, ↓reduceIte, hname.downwards,
      hname.unslashed, Nat.not_lt.mpr hname.short, hn, List.isEmpty_iff, hr, ih]

/-- The function that walks ends at a spot exactly when the steps lead there. -/
theorem walk_eq_ok_iff : walk tree purpose links here parts = .ok spot ↔
    Walks tree purpose links here parts spot := ⟨walks_of_walk, walk_of_walks⟩

/-- A walk may stay where it is before it goes on. -/
theorem walk_selfName (h : parts ≠ []) :
    walk tree purpose links here (selfName :: parts) = walk tree purpose links here parts := by
  have hstays : staysPut selfName = true := by decide
  obtain ⟨part, rest, rfl⟩ := List.exists_cons_of_ne_nil h
  rw [walk_eq, walkParts]
  cases hat : tree.at? here with
  | none => rw [walkParts, hat]
  | some node =>
    cases node with
    | directory entries => simp only [hstays, ↓reduceIte]
    | file content executable => rw [walkParts, hat]
    | device kind => rw [walkParts, hat]
    | link target => rw [walkParts, hat]

/-- A walk that is not at its last part goes on from the entry of the next one, which has to be a
directory. -/
theorem walk_entry {entries : List (Name × Node)} {part : Name} {rest : List Name}
    (hat : tree.at? here = some (.directory entries)) (hname : IsEntryName purpose part rest)
    (hr : rest ≠ []) (hl : ∀ target, tree.at? (here ++ [part]) ≠ some (.link target)) :
    walk tree purpose links here (part :: rest) =
      match tree.at? (here ++ [part]) with
      | some (.directory _) => walk tree purpose links (here ++ [part]) rest
      | some _ => .error .notDirectory
      | none => .error .notFound := by
  rw [Node.at?_concat hat] at hl ⊢
  rw [walk_eq]
  simp only [walkParts, hat, hname.moves, Bool.false_eq_true, ↓reduceIte, hname.downwards,
    hname.unslashed, Nat.not_lt.mpr hname.short, List.isEmpty_iff, hr]
  cases hf : Entries.find? part entries with
  | none => rfl
  | some node =>
    cases node with
    | link target => exact absurd hf (hl target)
    | directory inner => rfl
    | file content executable => rfl
    | device kind => rfl

/-! ### What a walk finds -/

/-- A walk finds the node that is at its place. -/
theorem Walks.at?_found (h : Walks tree purpose links here parts (.found place node)) :
    tree.at? place = some node := by
  generalize hs : Spot.found place node = spot at h
  induction h with
  | arrive hat =>
    cases hs
    exact hat
  | stay _ _ _ ih | ascend _ _ ih | link _ _ _ _ ih | descend _ _ _ _ ih => exact ih hs
  | vacancy => cases hs
  | entry _ hl _ =>
    cases hs
    exact hl
  | last _ hn _ =>
    cases hs
    exact hn

/-- A walk ends in a vacancy where a directory has no entry of the name. -/
theorem Walks.at?_vacant {dir : Location} {name : Name}
    (h : Walks tree purpose links here parts (.vacant dir name)) :
    (∃ entries, tree.at? dir = some (.directory entries)) ∧ tree.at? (dir ++ [name]) = none := by
  generalize hs : Spot.vacant dir name = spot at h
  induction h with
  | arrive => cases hs
  | stay _ _ _ ih | ascend _ _ ih | link _ _ _ _ ih | descend _ _ _ _ ih => exact ih hs
  | vacancy hat _ hv =>
    cases hs
    exact ⟨⟨_, hat⟩, hv⟩
  | entry => cases hs
  | last => cases hs

/-! ### Walks in another tree -/

/-- How the end of a walk reads in another tree: another node may be at the place, and a vacancy may
be taken by anything but a link. -/
inductive Spot.ReadIn (after : Node) : Spot → Spot → Prop
  | found {place : Location} {node node' : Node} :
      after.at? place = some node' → ReadIn after (.found place node) (.found place node')
  | taken {dir : Location} {name : Name} {node' : Node} :
      after.at? (dir ++ [name]) = some node' → (∀ target, node' ≠ .link target) →
      ReadIn after (.vacant dir name) (.found (dir ++ [name]) node')

private theorem exists_directory_of_grown (hg : Node.Grown before after)
    {entries : List (Name × Node)} (h : before.at? place = some (.directory entries)) :
    ∃ entries', after.at? place = some (.directory entries') := by
  obtain ⟨node', hat, hk⟩ := hg place _ h
  obtain ⟨entries', rfl⟩ := Node.eq_directory_of_kind hk
  exact ⟨entries', hat⟩

private theorem link_of_grown (hg : Node.Grown before after) {target : List UInt8}
    (h : before.at? place = some (.link target)) : after.at? place = some (.link target) := by
  obtain ⟨node', hat, hk⟩ := hg place _ h
  rw [hat, Node.eq_link_of_kind hk]

/-- In a tree that keeps every kind a walk ends where it ended before, and finds what is there
now. -/
theorem Walks.grown (h : Walks before purpose links here parts spot) (hg : Node.Grown before after)
    {spot' : Spot} (hr : spot.ReadIn after spot') : Walks after purpose links here parts spot' := by
  induction h with
  | arrive =>
    cases hr with
    | found hat => exact .arrive hat
  | stay hat hs _ ih =>
    obtain ⟨_, hat'⟩ := exists_directory_of_grown hg hat
    exact .stay hat' hs (ih hr)
  | ascend hat _ ih =>
    obtain ⟨_, hat'⟩ := exists_directory_of_grown hg hat
    exact .ascend hat' (ih hr)
  | vacancy _ hname =>
    cases hr with
    | taken hat hl => exact .last hname hat hl
  | entry hname hl hp =>
    have hl' := link_of_grown hg hl
    cases hr with
    | found hat =>
      obtain rfl := Option.some.inj (hat.symm.trans hl')
      exact .entry hname hl' hp
  | link hname hl hrest _ ih => exact .link hname (link_of_grown hg hl) hrest (ih hr)
  | @last _ here part node hname hn hl =>
    obtain ⟨node', hat, hk⟩ := hg _ _ hn
    cases hr with
    | found hat' =>
      obtain rfl := Option.some.inj (hat.symm.trans hat')
      refine .last hname hat ?_
      rintro target rfl
      exact hl target (Node.eq_link_of_kind hk.symm)
  | descend hname hn hrest _ ih =>
    obtain ⟨_, hn'⟩ := exists_directory_of_grown hg hn
    exact .descend hname hn' hrest (ih hr)

/-! ### Beginnings of a route -/

/-- A walk with a part to go stands in a directory. -/
theorem Walks.exists_directory {part : Name} {rest : List Name}
    (h : Walks tree purpose links here (part :: rest) spot) :
    ∃ entries, tree.at? here = some (.directory entries) := by
  cases h with
  | stay hat | ascend hat | vacancy hat => exact ⟨_, hat⟩
  | entry _ hn | link _ hn | last _ hn | descend _ hn =>
    exact Node.exists_directory_of_at?_append hn

private theorem isEntryName_reach {part : Name} {rest : List Name}
    (h : IsEntryName purpose part rest) (rest' : List Name) : IsEntryName .reach part rest' :=
  ⟨h.moves, h.downwards, by simp, h.short⟩

/-- Where a walk stands after a beginning of its route: in a directory that the beginning leads
to. -/
def PassesDirectory (tree : Node) (purpose : Purpose) (links : Nat) (here : Location)
    (front more : List Name) (spot : Spot) : Prop :=
  ∃ fewer mid entries, Walks tree .reach links here front (.found mid (.directory entries)) ∧
    Walks tree purpose fewer mid more spot

private theorem passesDirectory_nil {more : List Name} (hm : more ≠ []) (hp : [] ++ more = parts)
    (h : Walks tree purpose links here parts spot) :
    PassesDirectory tree purpose links here [] more spot := by
  subst hp
  rw [List.nil_append] at h
  cases more with
  | nil => exact absurd rfl hm
  | cons part rest =>
    obtain ⟨entries, hat⟩ := h.exists_directory
    exact ⟨links, here, entries, .arrive hat, h⟩

/-- A walk passes a directory after each proper beginning of its route. -/
theorem Walks.passesDirectory {front more : List Name} (hm : more ≠ [])
    (h : Walks tree purpose links here (front ++ more) spot) :
    PassesDirectory tree purpose links here front more spot := by
  generalize hp : front ++ more = parts at h
  induction h generalizing front with
  | arrive => exact absurd (List.append_eq_nil_iff.mp hp).2 hm
  | stay hat hs hw ih =>
    cases front with
    | nil => exact passesDirectory_nil hm hp (.stay hat hs hw)
    | cons part front =>
      obtain ⟨rfl, rfl⟩ := List.cons.inj hp
      obtain ⟨fewer, mid, entries, hfront, hmore⟩ := ih rfl
      exact ⟨fewer, mid, entries, .stay hat hs hfront, hmore⟩
  | ascend hat hw ih =>
    cases front with
    | nil => exact passesDirectory_nil hm hp (.ascend hat hw)
    | cons part front =>
      obtain ⟨rfl, rfl⟩ := List.cons.inj hp
      obtain ⟨fewer, mid, entries, hfront, hmore⟩ := ih rfl
      exact ⟨fewer, mid, entries, .ascend hat hfront, hmore⟩
  | vacancy hat hname hv =>
    cases front with
    | nil => exact passesDirectory_nil hm hp (.vacancy hat hname hv)
    | cons part front => exact absurd (List.append_eq_nil_iff.mp (List.cons.inj hp).2).2 hm
  | entry hname hn he =>
    cases front with
    | nil => exact passesDirectory_nil hm hp (.entry hname hn he)
    | cons part front => exact absurd (List.append_eq_nil_iff.mp (List.cons.inj hp).2).2 hm
  | link hname hn hrest hw ih =>
    cases front with
    | nil => exact passesDirectory_nil hm hp (.link hname hn hrest hw)
    | cons part front =>
      obtain ⟨rfl, rfl⟩ := List.cons.inj hp
      obtain ⟨fewer, mid, entries, hfront, hmore⟩ := ih (List.append_assoc _ _ _)
      exact ⟨fewer, mid, entries, .link (isEntryName_reach hname _) hn (by simp) hfront, hmore⟩
  | last hname hn hl =>
    cases front with
    | nil => exact passesDirectory_nil hm hp (.last hname hn hl)
    | cons part front => exact absurd (List.append_eq_nil_iff.mp (List.cons.inj hp).2).2 hm
  | descend hname hn hrest hw ih =>
    cases front with
    | nil => exact passesDirectory_nil hm hp (.descend hname hn hrest hw)
    | cons part front =>
      obtain ⟨rfl, rfl⟩ := List.cons.inj hp
      obtain ⟨fewer, mid, entries, hfront, hmore⟩ := ih rfl
      refine ⟨fewer, mid, entries, ?_, hmore⟩
      cases front with
      | nil =>
        cases hfront with
        | arrive hat => exact .last (isEntryName_reach hname _) hat (by simp)
      | cons next front => exact .descend (isEntryName_reach hname _) hn (by simp) hfront

/-! ### Walks for another purpose -/

/-- A walk to a place where a file may be made is one to what is there. -/
theorem Walks.reach_of_make (h : Walks tree .make links here parts spot) :
    Walks tree .reach links here parts spot := by
  induction h with
  | arrive hat => exact .arrive hat
  | stay hat hs _ ih => exact .stay hat hs ih
  | ascend hat _ ih => exact .ascend hat ih
  | vacancy hat hname hv => exact .vacancy hat (isEntryName_reach hname _) hv
  | entry _ _ he => cases he
  | link hname hn _ _ ih => exact .link (isEntryName_reach hname _) hn (by simp) ih
  | last hname hn hl => exact .last (isEntryName_reach hname _) hn hl
  | descend hname hn hrest _ ih => exact .descend (isEntryName_reach hname _) hn hrest ih

/-- A walk to an entry that is not there is one to what the path stands for, which is not there
either. -/
theorem Walks.reach_of_entry_vacant {dir : Location} {name : Name}
    (h : Walks tree .entry links here parts (.vacant dir name)) :
    Walks tree .reach links here parts (.vacant dir name) := by
  generalize hs : Spot.vacant dir name = spot at h
  induction h with
  | arrive => cases hs
  | stay hat hst _ ih => exact .stay hat hst (ih hs)
  | ascend hat _ ih => exact .ascend hat (ih hs)
  | vacancy hat hname hv => exact .vacancy hat (isEntryName_reach hname _) hv
  | entry => cases hs
  | link hname hn _ _ ih => exact .link (isEntryName_reach hname _) hn (by simp) (ih hs)
  | last => cases hs
  | descend hname hn hrest _ ih => exact .descend (isEntryName_reach hname _) hn hrest (ih hs)

private theorem found_directory_of_slashes {more : List Name} (hm : more ≠ [])
    (hall : more.all (·.isEmpty)) (h : Walks tree purpose links here more (.found place node)) :
    ∃ entries, node = .directory entries := by
  induction more with
  | nil => exact absurd rfl hm
  | cons part rest ih =>
    obtain ⟨hpart, hrest⟩ := by simpa using hall
    subst hpart
    obtain ⟨entries, hat⟩ := h.exists_directory
    have hidle : ∀ {rest}, ¬ IsEntryName purpose [] rest := fun hname => by
      simpa [staysPut] using hname.moves
    generalize hp : [] :: rest = parts at h
    cases h with
    | arrive => cases hp
    | stay _ _ hw =>
      obtain ⟨-, rfl⟩ := List.cons.inj hp
      cases rest with
      | nil =>
        cases hw with
        | arrive hat' =>
          rw [hat] at hat'
          exact ⟨entries, (Option.some.inj hat').symm⟩
      | cons next rest => exact ih (by simp) (by simpa using hrest) hw
    | ascend => cases (List.cons.inj hp).1
    | entry hname | link hname | last hname | descend hname =>
      obtain ⟨rfl, rfl⟩ := List.cons.inj hp
      exact absurd hname hidle

/-- A walk that finds no directory is one to a place where a file may be made. -/
theorem Walks.make_of_reach (h : Walks tree .reach links here parts (.found place node))
    (hd : ∀ entries, node ≠ .directory entries) :
    Walks tree .make links here parts (.found place node) := by
  have unslashed : ∀ {links here rest part} front, IsEntryName .reach part rest →
      (rest ≠ [] → Walks tree .reach links here (front ++ rest) (.found place node)) →
      IsEntryName .make part rest := by
    intro links here rest part front hname hw
    refine ⟨hname.moves, hname.downwards, ?_, hname.short⟩
    rintro ⟨-, hne, hall⟩
    obtain ⟨fewer, mid, _, -, hmore⟩ := (hw hne).passesDirectory hne
    obtain ⟨entries, he⟩ := found_directory_of_slashes hne hall hmore
    exact hd entries he
  generalize hs : Spot.found place node = spot at h
  induction h with
  | arrive hat => exact .arrive hat
  | stay hat hst _ ih => exact .stay hat hst (ih hs)
  | ascend hat _ ih => exact .ascend hat (ih hs)
  | vacancy => cases hs
  | entry _ _ he => cases he
  | link hname hn _ hw ih =>
    subst hs
    exact .link (unslashed _ hname fun _ => hw) hn (by simp) (ih rfl)
  | last hname hn hl => exact .last ⟨hname.moves, hname.downwards, by simp, hname.short⟩ hn hl
  | @descend _ _ part _ _ _ hname hn hrest hw ih =>
    subst hs
    exact .descend (unslashed [] hname fun _ => hw) hn hrest (ih rfl)

end LocaleRelay.Files
