import LocaleRelay.Listing
import Mathlib.Data.List.Forall2
import Mathlib.Data.List.Nodup
import Mathlib.Data.List.Permutation

/-!
# The order of a listing

A listing shows every entry of a directory once, in the order of the names as they are read. Reading
a name is lossy, so entries may come to share one; these stay in the order in which the directory
holds them. So that order is seen in nothing but entries with a shared name.
-/

namespace LocaleRelay.Listed

open Files FileSystem

variable {lengths : List (Name × Node) → Nat}

/-- The name of an entry as it is read. -/
def nameOf (entry : Name × Node) : String := Text.lossyText entry.1

/-! ### What a listing says -/

/-- A line of a listing says of an entry what it should: its name, whether it is a directory itself,
and the length of what is stored under the name, which of a link is its path. -/
structure Shows (entry : Name × Node) (listed : Listed) : Prop where
  name : listed.name = nameOf entry
  directory : listed.isDirectory = entry.2.isDirectory
  file : ∀ content executable, entry.2 = .file content executable →
    listed.length = content.size
  link : ∀ target, entry.2 = .link target → listed.length = target.length

/-- Entries in the order of a listing. None is lost, repeated or added, and entries with one name
keep their order. -/
structure Arranges (entries arranged : List (Name × Node)) : Prop where
  perm : arranged.Perm entries
  sorted : arranged.Pairwise fun first second => nameOf first ≤ nameOf second
  stable : ∀ name, arranged.filter (nameOf · = name) = entries.filter (nameOf · = name)

/-- A listing of entries. -/
def Lists (entries : List (Name × Node)) (listing : List Listed) : Prop :=
  ∃ arranged, Arranges entries arranged ∧ List.Forall₂ Shows arranged listing

/-- What is listed of an entry is right. -/
theorem shows_ofEntry (entry : Name × Node) : Shows entry (ofEntry lengths entry) := by
  obtain ⟨name, node⟩ := entry
  constructor
  case name => rfl
  case directory => rfl
  case file =>
    rintro content executable rfl
    rfl
  case link =>
    rintro target rfl
    rfl

/-! ### Sorting by names -/

/-- Whether the name of an entry does not come after that of another. -/
def entryNotAfter (first second : Name × Node) : Bool := nameOf first ≤ nameOf second

private theorem entryNotAfter_trans (first second third : Name × Node)
    (h : entryNotAfter first second) (h' : entryNotAfter second third) :
    entryNotAfter first third := by
  rw [entryNotAfter, decide_eq_true_eq] at h h' ⊢
  exact String.le_trans h h'

private theorem entryNotAfter_total (first second : Name × Node) :
    (entryNotAfter first second || entryNotAfter second first) = true := by
  rw [Bool.or_eq_true, entryNotAfter, entryNotAfter, decide_eq_true_eq, decide_eq_true_eq]
  exact String.le_total _ _

/-- Sorting entries by name arranges them. -/
theorem arranges_mergeSort (entries : List (Name × Node)) :
    Arranges entries (entries.mergeSort entryNotAfter) := by
  have hperm := List.mergeSort_perm entries entryNotAfter
  constructor
  case perm => exact hperm
  case sorted =>
    refine (List.pairwise_mergeSort entryNotAfter_trans entryNotAfter_total entries).imp ?_
    exact fun h => of_decide_eq_true h
  case stable =>
    intro name
    -- Entries with one name are sorted as they are, so they are a part of the sorted list.
    have hsame : (entries.filter (nameOf · = name)).Pairwise (entryNotAfter · ·) := by
      apply List.pairwise_of_forall_mem_list
      intro first hfirst second hsecond
      have hf : nameOf first = name := by simpa using (List.mem_filter.mp hfirst).2
      have hs : nameOf second = name := by simpa using (List.mem_filter.mp hsecond).2
      exact decide_eq_true ((hf.trans hs.symm) ▸ String.le_refl (nameOf first))
    have hpart : (entries.filter (nameOf · = name)).Sublist (entries.mergeSort entryNotAfter) :=
      List.sublist_mergeSort entryNotAfter_trans entryNotAfter_total hsame List.filter_sublist
    have hfiltered := hpart.filter (nameOf · = name)
    rw [List.filter_filter] at hfiltered
    simp only [Bool.and_self] at hfiltered
    exact (hfiltered.eq_of_length (hperm.filter _).length_eq.symm).symm

/-- The listing of entries is what is listed of them once they are arranged. -/
theorem ofEntries_eq (entries : List (Name × Node)) :
    ofEntries lengths entries = (entries.mergeSort entryNotAfter).map (ofEntry lengths) := by
  have hsame : ∀ first ∈ entries, ∀ second ∈ entries,
      entryNotAfter first second = notAfter (ofEntry lengths first) (ofEntry lengths second) :=
    fun _ _ _ _ => rfl
  exact (List.map_mergeSort hsame).symm

/-- The listing of entries lists them. -/
theorem lists_ofEntries (entries : List (Name × Node)) :
    Lists entries (ofEntries lengths entries) := by
  refine ⟨entries.mergeSort entryNotAfter, arranges_mergeSort entries, ?_⟩
  rw [ofEntries_eq, List.forall₂_map_right_iff]
  exact List.forall₂_same.mpr fun entry _ => shows_ofEntry entry

/-! ### The order in which a directory holds its entries -/

/-- A listing is in the order of its names. -/
theorem sorted_ofEntries (entries : List (Name × Node)) :
    (ofEntries lengths entries).Pairwise fun first second => first.name ≤ second.name := by
  rw [ofEntries_eq, List.pairwise_map]
  exact (arranges_mergeSort entries).sorted

/-- The entries of a directory in another order are listed in another order at most. -/
theorem ofEntries_perm {entries others : List (Name × Node)} (h : others.Perm entries) :
    (ofEntries lengths others).Perm (ofEntries lengths entries) := by
  calc (ofEntries lengths others).Perm (others.map (ofEntry lengths)) := List.mergeSort_perm _ _
    List.Perm _ (entries.map (ofEntry lengths)) := h.map (ofEntry lengths)
    List.Perm _ (ofEntries lengths entries) := (List.mergeSort_perm _ _).symm

/-- The names of a listing do not depend on the order of the entries. -/
theorem names_ofEntries_perm {entries others : List (Name × Node)} (h : others.Perm entries) :
    (ofEntries lengths others).map name = (ofEntries lengths entries).map name := by
  have hsorted : ∀ entries, ((ofEntries lengths entries).map name).Pairwise (· ≤ ·) :=
    fun entries => List.pairwise_map.mpr (sorted_ofEntries entries)
  apply List.Perm.eq_of_pairwise _ (hsorted others) (hsorted entries) ((ofEntries_perm h).map name)
  exact fun _ _ _ _ hle hge => String.le_antisymm hle hge

/-- If no two entries share a name a listing does not depend on their order at all. -/
theorem ofEntries_perm_of_nodup {entries others : List (Name × Node)} (h : others.Perm entries)
    (hnames : (entries.map nameOf).Nodup) :
    ofEntries lengths others = ofEntries lengths entries := by
  have hlisted : ((ofEntries lengths entries).map name).Nodup := by
    have hperm : ((ofEntries lengths entries).map name).Perm
        ((entries.map (ofEntry lengths)).map name) := (List.mergeSort_perm _ _).map name
    rw [hperm.nodup_iff, List.map_map]
    exact hnames
  refine List.Perm.eq_of_pairwise ?_ (sorted_ofEntries others) (sorted_ofEntries entries)
    (ofEntries_perm h)
  intro first second hfirst hsecond hle hge
  exact List.inj_on_of_nodup_map hlisted ((ofEntries_perm h).mem_iff.mp hfirst) hsecond
    (String.le_antisymm hle hge)

/-! ### Directories -/

/-- The listing of a directory is that of its entries. -/
theorem ofDirectory_of_lookup {files : FileSystem} {path : RawPath} {place : Location}
    {entries : List (Name × Node)} (h : files.lookup path = .ok (place, .directory entries)) :
    ofDirectory lengths files path = .ok (ofEntries lengths entries) := by
  rw [ofDirectory, FileSystem.entries, h]
  rfl

/-- A directory can be listed, however long the system says that directories are. Its listing shows
every entry once, in the order of the names; the names are the same in whatever order the directory
holds its entries, and so is all of the listing if no two entries share a name. -/
theorem lists_ofDirectory {lengths : List (Name × Node) → Nat} {files : FileSystem} {path : RawPath}
    {place : Location} {entries : List (Name × Node)}
    (h : files.lookup path = .ok (place, .directory entries)) :
    ∃ listing, ofDirectory lengths files path = .ok listing ∧ Lists entries listing ∧
      ∀ (other : FileSystem) (otherPath : RawPath) (otherPlace : Location)
        (others : List (Name × Node)),
        other.lookup otherPath = .ok (otherPlace, .directory others) →
        others.Perm entries →
        ∃ otherListing, ofDirectory lengths other otherPath = .ok otherListing ∧
          otherListing.map name = listing.map name ∧
          ((entries.map nameOf).Nodup → otherListing = listing) := by
  refine ⟨ofEntries lengths entries, ofDirectory_of_lookup h, lists_ofEntries entries, ?_⟩
  intro other otherPath otherPlace others hother hperm
  refine ⟨ofEntries lengths others, ofDirectory_of_lookup hother, names_ofEntries_perm hperm, ?_⟩
  exact ofEntries_perm_of_nodup hperm

/-- A directory with a hidden directory, a file and a link to a directory, in two orders. The names
of the file and of the link are no text, and both are read as one replacement character. -/
theorem lists_ofDirectory_two_orders :
    let entries : List (Name × Node) :=
      [([0xff], .file "key".toUTF8 false), ([0xfe], .link (utf8 ".ssh")),
        (utf8 ".ssh", .directory [])]
    let files : FileSystem := ⟨.directory entries, []⟩
    let other : FileSystem := ⟨.directory entries.reverse, []⟩
    let lengths : List (Name × Node) → Nat := fun _ => 4096
    let listing : List Listed :=
      [⟨".ssh", true, 4096⟩, ⟨"\ufffd", false, 3⟩, ⟨"\ufffd", false, 4⟩]
    let otherListing : List Listed :=
      [⟨".ssh", true, 4096⟩, ⟨"\ufffd", false, 4⟩, ⟨"\ufffd", false, 3⟩]
    files.lookup (utf8 ".") = .ok ([], .directory entries) ∧
      other.lookup (utf8 ".") = .ok ([], .directory entries.reverse) ∧
      ofDirectory lengths files (utf8 ".") = .ok listing ∧ Lists entries listing ∧
      ofDirectory lengths other (utf8 ".") = .ok otherListing ∧
      otherListing.map name = listing.map name := by
  intro entries files other lengths listing otherListing
  have hfiles : files.lookup (utf8 ".") = .ok ([], .directory entries) := rfl
  have hother : other.lookup (utf8 ".") = .ok ([], .directory entries.reverse) := rfl
  have hlisting : ofDirectory lengths files (utf8 ".") = .ok listing := by
    have hlisted : entries.map (ofEntry lengths) =
        [⟨"\ufffd", false, 3⟩, ⟨"\ufffd", false, 4⟩, ⟨".ssh", true, 4096⟩] := by decide +kernel
    rw [ofDirectory_of_lookup hfiles, ofEntries, hlisted]
    cbv
  have hotherListing : ofDirectory lengths other (utf8 ".") = .ok otherListing := by
    have hlisted : entries.reverse.map (ofEntry lengths) =
        [⟨".ssh", true, 4096⟩, ⟨"\ufffd", false, 4⟩, ⟨"\ufffd", false, 3⟩] := by decide +kernel
    rw [ofDirectory_of_lookup hother, ofEntries, hlisted]
    cbv
  obtain ⟨found, hfound, hlists, horder⟩ := @lists_ofDirectory lengths _ _ _ _ hfiles
  obtain ⟨otherFound, hotherFound, hnames, -⟩ :=
    horder other (utf8 ".") [] entries.reverse hother entries.reverse_perm
  obtain rfl : found = listing := Except.ok.inj (hfound.symm.trans hlisting)
  obtain rfl : otherFound = otherListing := Except.ok.inj (hotherFound.symm.trans hotherListing)
  exact ⟨hfiles, hother, hlisting, hlists, hotherListing, hnames⟩

end LocaleRelay.Listed
