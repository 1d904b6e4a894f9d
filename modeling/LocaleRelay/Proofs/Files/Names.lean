import LocaleRelay.Proofs.Files.Ancestor
import LocaleRelay.Proofs.Files.Walk

/-!
# Paths written as names

A relative path may be written as names with slashes between them. The names are then the parts of
its route, all names but the last one write its parent, and the beginnings of the names write its
ancestors.
-/

namespace LocaleRelay.Files

namespace Path

/-- A name that a path can be written with: no slash divides it, it stands for an entry of its own,
and the system takes it. -/
structure IsName (name : Name) : Prop where
  nonempty : name ≠ []
  notSelf : name ≠ selfName
  notUp : name ≠ upName
  undivided : slash ∉ name
  noNul : 0 ∉ name
  short : name.length ≤ nameLimit

/-- The path that is written with names. -/
def ofNames (names : List Name) : RawPath := unpieces names

/-- Names that together write a path that the system takes. -/
structure AreNames (names : List Name) : Prop where
  each : ∀ name ∈ names, IsName name
  short : (ofNames names).length < pathLimit

instance (name : Name) : Decidable (IsName name) :=
  decidable_of_iff (name ≠ [] ∧ name ≠ selfName ∧ name ≠ upName ∧ slash ∉ name ∧ 0 ∉ name ∧
      name.length ≤ nameLimit)
    ⟨fun ⟨nonempty, notSelf, notUp, undivided, noNul, short⟩ =>
        ⟨nonempty, notSelf, notUp, undivided, noNul, short⟩,
      fun h => ⟨h.nonempty, h.notSelf, h.notUp, h.undivided, h.noNul, h.short⟩⟩

instance (names : List Name) : Decidable (AreNames names) :=
  decidable_of_iff ((∀ name ∈ names, IsName name) ∧ (ofNames names).length < pathLimit)
    ⟨fun h => ⟨h.1, h.2⟩, fun h => ⟨h.each, h.short⟩⟩

variable {names front : List Name} {name : Name}

private theorem forall_isName_concat (hfront : ∀ name ∈ front, IsName name) (hname : IsName name) :
    ∀ other ∈ front ++ [name], IsName other := by
  intro other ho
  rcases List.mem_append.mp ho with ho | ho
  · exact hfront other ho
  · rwa [List.mem_singleton.mp ho]

/-! ### Pieces -/

private theorem ofNames_cons (name : Name) (hn : names ≠ []) :
    ofNames (name :: names) = name ++ slash :: ofNames names := by
  rw [ofNames, unpieces, List.intercalate_cons_of_ne_nil hn, List.append_assoc]
  rfl

private theorem ofNames_singleton (name : Name) : ofNames [name] = name := by
  simp [ofNames, unpieces]

private theorem pieces_ofNames (hn : names ≠ []) (hnames : ∀ name ∈ names, IsName name) :
    pieces (ofNames names) = names :=
  pieces_unpieces hn fun name hname => (hnames name hname).undivided

private theorem isAbsolute_ofNames (hnames : ∀ name ∈ names, IsName name) :
    isAbsolute (ofNames names) = false := by
  cases names with
  | nil => rfl
  | cons name names =>
    have hname := hnames name (by simp)
    have hhead : (ofNames (name :: names)).head? = name.head? := by
      by_cases hn : names = []
      · rw [hn, ofNames_singleton]
      · rw [ofNames_cons name hn, List.head?_append,
          Option.or_of_isSome (by simpa using hname.nonempty)]
    rw [isAbsolute, hhead, decide_eq_false_iff_not]
    exact fun h => hname.undivided (List.mem_of_head? h)

private theorem isIdle_name (hname : IsName name) (first : Bool) : isIdle first name = false := by
  simp [isIdle, hname.nonempty, hname.notSelf]

/-! ### Ancestors and parents -/

private theorem ancestors_relative {path : RawPath} (h : isAbsolute path = false) :
    ancestors path =
      (ancestorPieces true (pieces path).reverse).map fun parts => unpieces parts.reverse := by
  simp [ancestors, root, body, h]

private theorem parent?_relative {path : RawPath} (h : isAbsolute path = false) :
    parent? path = (parentPieces? true (pieces path)).map unpieces := by
  simp [parent?, root, body, h]

/-- Without names there is no ancestor. -/
theorem ancestors_ofNames_nil : ancestors (ofNames []) = [] := by decide

/-- The ancestors of a path are the path itself and those of the names before the last one. -/
theorem ancestors_ofNames_concat (hfront : ∀ name ∈ front, IsName name) (hname : IsName name) :
    ancestors (ofNames (front ++ [name])) =
      ofNames (front ++ [name]) :: ancestors (ofNames front) := by
  have hall := forall_isName_concat hfront hname
  rw [ancestors_relative (isAbsolute_ofNames hall), pieces_ofNames (by simp) hall,
    List.reverse_append, List.reverse_singleton, List.singleton_append, ancestorPieces,
    isIdle_name hname, if_neg (by decide), List.map_cons, List.reverse_cons, List.reverse_reverse]
  congr 1
  by_cases hn : front = []
  · subst hn
    rfl
  · rw [ancestors_relative (isAbsolute_ofNames hfront), pieces_ofNames hn hfront]

private theorem dropIdle_names (hnames : ∀ name ∈ names, IsName name) :
    dropIdle true names.reverse = names.reverse := by
  rcases List.eq_nil_or_concat names with rfl | ⟨before, last, rfl⟩
  · rfl
  · have hlast := isIdle_name (hnames last (by simp))
    rw [List.concat_eq_append, List.reverse_append, List.reverse_singleton, List.singleton_append,
      dropIdle, hlast, if_neg (by decide)]

/-- The parent of a path is written with the names before the last one. -/
theorem namedParent?_ofNames_concat (hfront : ∀ name ∈ front, IsName name) (hname : IsName name) :
    namedParent? (ofNames (front ++ [name])) = (some (ofNames front)).filter (· ≠ []) := by
  have hall := forall_isName_concat hfront hname
  have hpieces : parentPieces? true (front ++ [name]) = some front := by
    rw [parentPieces?, dropIdle_names hall, List.reverse_append, List.reverse_singleton,
      List.singleton_append]
    simp only [dropIdle_names hfront, List.reverse_reverse]
  rw [namedParent?, parent?_relative (isAbsolute_ofNames hall), pieces_ofNames (by simp) hall,
    hpieces, Option.map_some]
  rfl

/-! ### Routes -/

private theorem endsInName_name (hname : IsName name) : EndsInName name :=
  endsInName_of_getLast? hname.nonempty fun h => hname.undivided (List.mem_of_getLast? h)

private theorem ofBytes_undivided {path : RawPath} (h : slash ∉ path) :
    Route.ofBytes path = ⟨false, [path]⟩ := by
  have hsplit : Route.split path = (path, []) := by
    induction path with
    | nil => rfl
    | cons byte path ih =>
      obtain ⟨hbyte, hpath⟩ := by simpa using h
      simp [Route.split, ih hpath, Ne.symm hbyte]
  have hhead : path.head? ≠ some slash := fun he => h (List.mem_of_head? he)
  simp [Route.ofBytes, hsplit, hhead, Route.dropEmpty]

private theorem ofBytes_ofNames (hn : names ≠ []) (hnames : ∀ name ∈ names, IsName name) :
    Route.ofBytes (ofNames names) = ⟨false, names⟩ := by
  induction names with
  | nil => exact absurd rfl hn
  | cons name names ih =>
    have hname := hnames name (by simp)
    have hfirst := ofBytes_undivided hname.undivided
    by_cases hne : names = []
    · subst hne
      rw [ofNames_singleton, hfirst]
    · rw [ofNames_cons name hne, Route.ofBytes_append (endsInName_name hname), hfirst,
        ih hne fun other ho => hnames other (by simp [ho])]
      rfl

private theorem zero_not_mem_ofNames (hnames : ∀ name ∈ names, IsName name) :
    0 ∉ ofNames names := by
  induction names with
  | nil => decide
  | cons name names ih =>
    have hname := (hnames name (by simp)).noNul
    by_cases hne : names = []
    · rwa [hne, ofNames_singleton]
    · have hrest := ih fun other ho => hnames other (by simp [ho])
      rw [ofNames_cons name hne]
      simp [hname, hrest, slash]

/-- The route of a path has as its parts the names that it is written with. -/
theorem AreNames.parse (h : AreNames names) (hn : names ≠ []) :
    Route.parse (ofNames names) = .ok ⟨false, names⟩ := by
  have hroute := ofBytes_ofNames hn h.each
  refine Route.parse_eq_ok_iff.mpr ⟨?_, h.short, ?_, hroute⟩
  · simpa using zero_not_mem_ofNames h.each
  · intro he
    rw [he] at hroute
    have hparts : names = [[]] := (Route.mk.inj hroute).2.symm
    exact (h.each [] (by simp [hparts])).nonempty rfl

/-- A name is a part that leads to an entry. -/
theorem IsName.isEntryName (h : IsName name) : IsEntryName .reach name [] where
  moves := by simp [staysPut, h.nonempty, h.notSelf]
  downwards he := h.notUp he
  unslashed := by simp
  short := h.short

/-- The first of some names write a path too. -/
theorem AreNames.of_append {rest : List Name} (h : AreNames (front ++ rest)) :
    AreNames front where
  each name hname := h.each name (by simp [hname])
  short := by
    by_cases hf : front = []
    · rw [hf]
      decide
    by_cases hr : rest = []
    · simpa [hr] using h.short
    · have hshort := h.short
      rw [ofNames, unpieces_append hf hr, List.length_append] at hshort
      exact Nat.lt_of_le_of_lt (Nat.le_add_right _ _) hshort

end Path

end LocaleRelay.Files
