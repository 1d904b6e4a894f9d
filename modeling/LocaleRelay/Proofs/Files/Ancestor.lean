import LocaleRelay.Files.Route

/-!
# Ancestors of a path as beginnings of its route

The ancestors of a path are beginnings of it, and each of them ends in a name. A path that is
continued after a slash has the route of its beginning, continued by at least one part.
-/

namespace LocaleRelay.Files

/-- Whether a path ends in a name. -/
def EndsInName (path : RawPath) : Prop := ∃ front byte, path = front ++ [byte] ∧ byte ≠ slash

/-- A path ends in a name if it is not empty and its last byte is no slash. -/
theorem endsInName_of_getLast? {path : RawPath} (hne : path ≠ [])
    (h : path.getLast? ≠ some slash) : EndsInName path := by
  obtain ⟨front, byte, rfl⟩ := (List.eq_nil_or_concat path).resolve_left hne
  rw [List.concat_eq_append] at h ⊢
  exact ⟨front, byte, rfl, by simpa using h⟩

private theorem endsInName_append {path : RawPath} (front : RawPath) (h : EndsInName path) :
    EndsInName (front ++ path) := by
  obtain ⟨before, byte, rfl, hb⟩ := h
  exact ⟨front ++ before, byte, (List.append_assoc _ _ _).symm, hb⟩

namespace Path

/-! ### Pieces -/

/-- Every path has a piece, if only an empty one. -/
theorem pieces_ne_nil (path : RawPath) : pieces path ≠ [] := by
  cases path with
  | nil => simp [pieces]
  | cons b rest =>
    simp only [pieces]
    split
    · simp
    · split <;> simp

/-- The pieces on both sides of a slash are those of the one and those of the other. -/
theorem pieces_append (front rest : RawPath) :
    pieces (front ++ slash :: rest) = pieces front ++ pieces rest := by
  induction front with
  | nil => simp [pieces]
  | cons b front ih =>
    obtain ⟨piece, more, hp⟩ := List.exists_cons_of_ne_nil (pieces_ne_nil front)
    rw [List.cons_append]
    by_cases hb : b = slash
    · simp [pieces, hb, ih]
    · simp [pieces, hb, ih, hp]

private theorem slash_not_mem_pieces (path : RawPath) : ∀ piece ∈ pieces path, slash ∉ piece := by
  induction path with
  | nil => simp [pieces]
  | cons b rest ih =>
    obtain ⟨piece, more, hp⟩ := List.exists_cons_of_ne_nil (pieces_ne_nil rest)
    rw [hp] at ih
    by_cases hb : b = slash
    · simpa [pieces, hb, hp] using ih
    · intro other ho
      simp only [pieces, hb, ↓reduceIte, hp, List.mem_cons] at ho
      rcases ho with rfl | ho
      · have := ih piece (by simp)
        simp [this, Ne.symm hb]
      · exact ih other (by simp [ho])

/-- A path without slashes is its only piece. -/
theorem pieces_undivided {path : RawPath} (h : slash ∉ path) : pieces path = [path] := by
  induction path with
  | nil => rfl
  | cons b rest ih =>
    obtain ⟨hb, hrest⟩ := by simpa using h
    have hne : ¬ b = slash := fun he => hb he.symm
    simp [pieces, hne, ih hrest]

/-- Two lists of pieces put together are the one, a slash and the other. -/
theorem unpieces_append {first second : List Name} (hf : first ≠ [])
    (hs : second ≠ []) :
    unpieces (first ++ second) = unpieces first ++ slash :: unpieces second := by
  induction first with
  | nil => exact absurd rfl hf
  | cons piece first ih =>
    cases first with
    | nil =>
      rw [List.singleton_append, unpieces, List.intercalate_cons_of_ne_nil hs]
      simp [unpieces]
    | cons next first =>
      have h := ih (by simp)
      simp only [unpieces, List.cons_append, List.intercalate_cons_cons] at h ⊢
      rw [h]
      simp

/-- Putting together pieces without slashes and dividing the path again gives them back. -/
theorem pieces_unpieces {parts : List Name} (hp : parts ≠ [])
    (hs : ∀ piece ∈ parts, slash ∉ piece) : pieces (unpieces parts) = parts := by
  induction parts with
  | nil => exact absurd rfl hp
  | cons piece rest ih =>
    have hpiece := pieces_undivided (hs piece (by simp))
    by_cases hrest : rest = []
    · subst hrest
      simpa [unpieces] using hpiece
    · rw [← List.singleton_append, unpieces_append (by simp) hrest, pieces_append,
        ih hrest fun other ho => hs other (by simp [ho])]
      have hsingle : unpieces [piece] = piece := by simp [unpieces]
      rw [hsingle, hpiece]

private theorem exists_append_dropIdle (relative : Bool) (parts : List Name) :
    ∃ dropped, parts = dropped ++ dropIdle relative parts := by
  induction parts with
  | nil => exact ⟨[], rfl⟩
  | cons piece before ih =>
    rw [dropIdle]
    split
    · obtain ⟨dropped, h⟩ := ih
      exact ⟨piece :: dropped, congrArg (piece :: ·) h⟩
    · exact ⟨[], rfl⟩

private theorem exists_append_of_mem_ancestorPieces {relative : Bool} {parts : List Name}
    {ancestor : List Name} (h : ancestor ∈ ancestorPieces relative parts) :
    ∃ dropped piece before, parts = dropped ++ ancestor ∧ ancestor = piece :: before ∧
      piece ≠ [] := by
  induction parts with
  | nil => simp [ancestorPieces] at h
  | cons piece before ih =>
    rw [ancestorPieces] at h
    split at h
    · obtain ⟨dropped, last, front, hp, ha⟩ := ih h
      exact ⟨piece :: dropped, last, front, congrArg (piece :: ·) hp, ha⟩
    · next hidle =>
      rcases List.mem_cons.mp h with rfl | h
      · refine ⟨[], piece, before, rfl, rfl, ?_⟩
        rintro rfl
        simp [isIdle] at hidle
      · obtain ⟨dropped, last, front, hp, ha⟩ := ih h
        exact ⟨piece :: dropped, last, front, congrArg (piece :: ·) hp, ha⟩

private theorem endsInName_unpieces {piece : Name} {before : List Name} (hp : piece ≠ [])
    (hs : slash ∉ piece) : EndsInName (unpieces (piece :: before).reverse) := by
  have hpiece : EndsInName piece :=
    endsInName_of_getLast? hp fun h => hs (List.mem_of_getLast? h)
  rw [List.reverse_cons]
  cases hb : before.reverse with
  | nil => simpa [unpieces] using hpiece
  | cons first rest =>
    rw [unpieces_append (by simp) (by simp)]
    have hsingle : unpieces [piece] = piece := by simp [unpieces]
    rw [hsingle, List.append_cons]
    exact endsInName_append _ hpiece

private theorem beginning_of_mem_ancestorPieces {relative : Bool} {body : RawPath}
    {ancestor : List Name} (h : ancestor ∈ ancestorPieces relative (pieces body).reverse) :
    EndsInName (unpieces ancestor.reverse) ∧
      (body = unpieces ancestor.reverse ∨
        ∃ rest, body = unpieces ancestor.reverse ++ slash :: rest) := by
  obtain ⟨dropped, piece, before, hparts, rfl, hpiece⟩ := exists_append_of_mem_ancestorPieces h
  have hpieces : pieces body = (piece :: before).reverse ++ dropped.reverse := by
    rw [← List.reverse_append, ← hparts, List.reverse_reverse]
  refine ⟨endsInName_unpieces hpiece (slash_not_mem_pieces body piece (by simp [hpieces])), ?_⟩
  rw [← unpieces_pieces body, hpieces]
  cases dropped with
  | nil => simp
  | cons first rest =>
    right
    exact ⟨_, unpieces_append (by simp) (by simp)⟩

private theorem beginning_of_mem_ancestors {path ancestor : RawPath}
    (h : ancestor ∈ ancestors path) :
    EndsInName ancestor ∧ (path = ancestor ∨ ∃ rest, path = ancestor ++ slash :: rest) := by
  obtain ⟨parts, hparts, rfl⟩ := List.mem_map.mp h
  obtain ⟨hname, hbody⟩ := beginning_of_mem_ancestorPieces hparts
  refine ⟨endsInName_append _ hname, ?_⟩
  rcases hbody with hbody | ⟨rest, hbody⟩
  · left
    rw [← hbody, root_append_body]
  · right
    refine ⟨rest, ?_⟩
    rw [List.append_assoc, ← hbody, root_append_body]

/-- Every ancestor of a path ends in a name. -/
theorem endsInName_of_mem_ancestors {path ancestor : RawPath} (h : ancestor ∈ ancestors path) :
    EndsInName ancestor := (beginning_of_mem_ancestors h).1

private theorem beginning_of_parentPieces? {relative : Bool} {body : RawPath}
    {front : List Name} (h : parentPieces? relative (pieces body) = some front)
    (hf : front ≠ []) : ∃ rest, body = unpieces front ++ slash :: rest := by
  rw [parentPieces?] at h
  split at h
  · cases h
  · next last before hb =>
    obtain rfl := Option.some.inj h
    obtain ⟨ending, hending⟩ := exists_append_dropIdle relative (pieces body).reverse
    obtain ⟨idle, hidle⟩ := exists_append_dropIdle relative before
    rw [hb] at hending
    rw [hidle, ← List.reverse_inj, List.reverse_reverse] at hending
    rw [← unpieces_pieces body, hending]
    refine ⟨unpieces (idle.reverse ++ last :: ending.reverse), ?_⟩
    rw [← unpieces_append hf (by simp)]
    simp

private theorem pieces_of_namedParent? {path parent : RawPath}
    (h : namedParent? path = some parent) :
    parent = [slash] ∨ ∃ front, front ≠ [] ∧ parent = root path ++ unpieces front ∧
      parentPieces? (!isAbsolute path) (pieces (body path)) = some front := by
  rw [namedParent?, Option.filter_eq_some_iff, parent?] at h
  obtain ⟨h, hne⟩ := h
  obtain ⟨front, hfront, rfl⟩ := Option.map_eq_some_iff.mp h
  by_cases hf : front = []
  · subst hf
    left
    have hroot : root path ≠ [] := by simpa [unpieces] using hne
    rw [root] at hroot ⊢
    split at hroot
    · simp_all [unpieces]
    · exact absurd rfl hroot
  · exact .inr ⟨front, hf, rfl, hfront⟩

private theorem beginning_of_namedParent? {path parent : RawPath}
    (h : namedParent? path = some parent) :
    parent = [slash] ∨ ∃ rest, path = parent ++ slash :: rest := by
  rcases pieces_of_namedParent? h with hroot | ⟨front, hf, rfl, hfront⟩
  · exact .inl hroot
  · obtain ⟨rest, hbody⟩ := beginning_of_parentPieces? hfront hf
    refine .inr ⟨rest, ?_⟩
    rw [List.append_assoc, ← hbody, root_append_body]

/-- A path is each ancestor of its parent, continued after a slash. -/
theorem append_of_mem_ancestors {path parent ancestor : RawPath}
    (hp : namedParent? path = some parent) (h : ancestor ∈ ancestors parent) :
    ∃ rest, path = ancestor ++ slash :: rest := by
  rcases beginning_of_namedParent? hp with rfl | ⟨rest, rfl⟩
  · have hroot : ancestors [slash] = [] := by decide
    simp [hroot] at h
  · rcases (beginning_of_mem_ancestors h).2 with rfl | ⟨more, rfl⟩
    · exact ⟨rest, rfl⟩
    · exact ⟨more ++ slash :: rest, by simp⟩

end Path

/-! ### Routes -/

namespace Route

/-- The parts between slashes. -/
private def allParts (path : RawPath) : List Name := (split path).1 :: (split path).2

private theorem ofBytes_eq (path : RawPath) :
    ofBytes path = ⟨path.head? = some slash, dropEmpty (allParts path)⟩ := rfl

private theorem allParts_cons (byte : UInt8) (rest : RawPath) :
    allParts (byte :: rest) =
      if byte = slash then [] :: allParts rest
      else (byte :: (split rest).1) :: (split rest).2 := by
  simp only [allParts, split]
  split <;> rfl

private theorem allParts_append (front rest : RawPath) :
    allParts (front ++ slash :: rest) = allParts front ++ allParts rest := by
  induction front with
  | nil => simp [allParts, split]
  | cons byte front ih =>
    rw [List.cons_append, allParts_cons, allParts_cons, ih]
    split
    · rfl
    · simp only [allParts, List.cons_append, List.cons.injEq] at ih ⊢
      exact ⟨⟨trivial, ih.1⟩, ih.2⟩

private theorem exists_last_of_endsInName {path : RawPath} (h : EndsInName path) :
    ∃ front last, allParts path = front ++ [last] ∧ last ≠ [] := by
  obtain ⟨front, byte, rfl, hb⟩ := h
  induction front with
  | nil => exact ⟨[], [byte], by simp [allParts_cons, hb, split], by simp⟩
  | cons first front ih =>
    obtain ⟨before, last, hp, hl⟩ := ih
    rw [List.cons_append, allParts_cons]
    split
    · exact ⟨[] :: before, last, congrArg ([] :: ·) hp, hl⟩
    · cases before with
      | nil =>
        obtain ⟨h1, h2⟩ :
            (split (front ++ [byte])).1 = last ∧ (split (front ++ [byte])).2 = [] := by
          simpa [allParts] using hp
        exact ⟨[], first :: last, by rw [h1, h2]; rfl, by simp⟩
      | cons next before =>
        obtain ⟨h1, h2⟩ : (split (front ++ [byte])).1 = next ∧
            (split (front ++ [byte])).2 = before ++ [last] := by
          simpa [allParts] using hp
        exact ⟨(first :: next) :: before, last, by rw [h1, h2]; rfl, hl⟩

private theorem dropEmpty_append {front more : List Name} {last : Name} (hl : last ≠ [])
    (hm : more ≠ []) :
    dropEmpty (front ++ [last] ++ more) = dropEmpty (front ++ [last]) ++ dropEmpty more := by
  induction front with
  | nil =>
    obtain ⟨next, rest, rfl⟩ := List.exists_cons_of_ne_nil hm
    simp [dropEmpty, hl]
  | cons part front ih =>
    obtain ⟨next, rest, hn⟩ := List.exists_cons_of_ne_nil (l := front ++ [last]) (by simp)
    rw [hn] at ih
    simp only [List.cons_append, hn, dropEmpty] at ih ⊢
    rw [ih]
    split <;> rfl

private theorem getLast?_dropEmpty (front : List Name) (last : Name) :
    (dropEmpty (front ++ [last])).getLast? = some last := by
  induction front with
  | nil => rfl
  | cons part front ih =>
    obtain ⟨next, rest, hn⟩ := List.exists_cons_of_ne_nil (l := front ++ [last]) (by simp)
    rw [hn] at ih
    simp only [List.cons_append, hn, dropEmpty]
    split
    · exact ih
    · rw [List.getLast?_cons, ih]
      rfl

private theorem dropEmpty_ne_nil {parts : List Name} (h : parts ≠ []) : dropEmpty parts ≠ [] := by
  obtain ⟨front, last, rfl⟩ := (List.eq_nil_or_concat parts).resolve_left h
  rw [List.concat_eq_append]
  intro he
  have := getLast?_dropEmpty front last
  simp [he] at this

/-- Every route has a part. -/
theorem parts_ne_nil (path : RawPath) : (ofBytes path).parts ≠ [] :=
  dropEmpty_ne_nil (List.cons_ne_nil _ _)

/-- A path continued after a slash has the parts of both, and starts where its beginning does. -/
theorem ofBytes_append {front : RawPath} (h : EndsInName front) (rest : RawPath) :
    ofBytes (front ++ slash :: rest) =
      ⟨(ofBytes front).absolute, (ofBytes front).parts ++ (ofBytes rest).parts⟩ := by
  obtain ⟨before, last, hp, hl⟩ := exists_last_of_endsInName h
  rw [ofBytes_eq, ofBytes_eq, ofBytes_eq, allParts_append, hp,
    dropEmpty_append hl (by simp [allParts])]
  obtain ⟨bytes, byte, rfl, -⟩ := h
  cases bytes <;> rfl

/-- The route of a path that ends in a name ends in that name. -/
theorem exists_last_part {path : RawPath} (h : EndsInName path) :
    ∃ front last, (ofBytes path).parts = front ++ [last] ∧ last ≠ [] := by
  obtain ⟨before, last, hp, hl⟩ := exists_last_of_endsInName h
  have hlast := getLast?_dropEmpty before last
  rw [← hp, List.getLast?_eq_some_iff] at hlast
  obtain ⟨front, hf⟩ := hlast
  exact ⟨front, last, hf, hl⟩

/-- A path has a route unless it holds a NUL, is too long or is empty. -/
theorem parse_eq_ok_iff {path : RawPath} {route : Route} :
    parse path = .ok route ↔
      path.contains 0 = false ∧ path.length < pathLimit ∧ path ≠ [] ∧ ofBytes path = route := by
  unfold parse
  constructor
  · intro h
    split at h
    · cases h
    next hnul =>
    split at h
    · cases h
    next hlen =>
    split at h
    · cases h
    · next he =>
      cases h
      exact ⟨by simpa using hnul, Nat.lt_of_not_le hlen, fun e => he (List.isEmpty_iff.mpr e), rfl⟩
  · rintro ⟨hnul, hlen, hne, rfl⟩
    have he : path.isEmpty = false := by simpa using hne
    simp only [hnul, Nat.not_le.mpr hlen, he, Bool.false_eq_true, ↓reduceIte]

/-- The beginning of a path that has a route has one too. -/
theorem parse_of_append {front rest : RawPath} {route : Route} (hf : EndsInName front)
    (h : parse (front ++ slash :: rest) = .ok route) : parse front = .ok (ofBytes front) := by
  obtain ⟨hnul, hlen, -, -⟩ := parse_eq_ok_iff.mp h
  rw [List.length_append] at hlen
  refine parse_eq_ok_iff.mpr ⟨?_, by omega, ?_, rfl⟩
  · simp only [List.contains_eq_mem, List.mem_append, decide_eq_false_iff_not] at hnul ⊢
    exact fun hm => hnul (.inl hm)
  · obtain ⟨bytes, byte, rfl, -⟩ := hf
    simp

end Route

end LocaleRelay.Files
