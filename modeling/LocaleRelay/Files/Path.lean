import LocaleRelay.Files.Node

/-!
# Paths

Paths as bytes: the directory a path names its last part in, and a path continued by another.
Repeated slashes and interior dots stand for nothing, so a parent is found by the parts that remain;
the bytes of a parent are always a beginning of the path's own.
-/

namespace LocaleRelay.Files

/-- A path as the system takes it. -/
abbrev RawPath := List UInt8

/-- The byte between the parts of a path. -/
def slash : UInt8 := 0x2f

/-- The name of the directory itself. -/
def selfName : Name := [0x2e]

namespace Path

/-- The pieces of a path between its slashes; a path with `n` slashes has `n + 1` pieces. -/
def pieces : RawPath → List Name
  | [] => [[]]
  | b :: rest =>
    if b = slash then [] :: pieces rest
    else
      match pieces rest with
      | [] => [[b]]
      | piece :: more => (b :: piece) :: more

/-- Pieces put back together with slashes between them. -/
def unpieces (parts : List Name) : RawPath := [slash].intercalate parts

/-- Whether a piece names nothing: it is empty, or a dot that does not begin a relative path. -/
def isIdle (first : Bool) (piece : Name) : Bool :=
  piece.isEmpty || (piece == selfName && !first)

/-- The pieces, last one first, without the idle pieces at their end. `relative` says whether the
very first piece may be a dot of its own. -/
def dropIdle (relative : Bool) : List Name → List Name
  | [] => []
  | piece :: before =>
    if isIdle (relative && before.isEmpty) piece then dropIdle relative before
    else piece :: before

/-- The pieces of the parent of a path: the last piece that names something goes, and the idle
pieces on both sides of it. A path without such a piece has no parent. -/
def parentPieces? (relative : Bool) (parts : List Name) : Option (List Name) :=
  match dropIdle relative parts.reverse with
  | [] => none
  | _ :: before => some (dropIdle relative before).reverse

/-- Whether a path starts from the root. -/
def isAbsolute (path : RawPath) : Bool := path.head? = some slash

/-- The slash that a path starts from, if it is absolute. -/
def root (path : RawPath) : RawPath := if isAbsolute path then [slash] else []

/-- A path after the slash that it starts from. -/
def body (path : RawPath) : RawPath := if isAbsolute path then path.tail else path

/-- The parent of a path, as a beginning of it; the root and the empty path have none, and a
relative path of one part has the empty one. -/
def parent? (path : RawPath) : Option RawPath :=
  (parentPieces? (!isAbsolute path) (pieces (body path))).map fun parts =>
    root path ++ unpieces parts

/-- The parent of a path where it has one with a name. -/
def namedParent? (path : RawPath) : Option RawPath := (parent? path).filter (· ≠ [])

/-- A path continued by another one, which replaces it when it is absolute. -/
def join (base rest : RawPath) : RawPath :=
  if isAbsolute rest then rest
  else if base.isEmpty || base.getLast? = some slash then base ++ rest
  else base ++ slash :: rest

/-- The pieces of a path and of every ancestor of it, nearest first; all are given last piece
first, as is the argument. -/
def ancestorPieces (relative : Bool) : List Name → List (List Name)
  | [] => []
  | piece :: before =>
    if isIdle (relative && before.isEmpty) piece then ancestorPieces relative before
    else (piece :: before) :: ancestorPieces relative before

/-- A path, its parent, the parent of that, and so on up to the first part. -/
def ancestors (path : RawPath) : List RawPath :=
  (ancestorPieces (!isAbsolute path) (pieces (body path)).reverse).map fun parts =>
    root path ++ unpieces parts.reverse

/-- Pieces are what slashes divide, so putting them together gives the path back. -/
theorem unpieces_pieces (path : RawPath) : unpieces (pieces path) = path := by
  induction path with
  | nil => rfl
  | cons b rest ih =>
    have hne : pieces rest ≠ [] := by
      cases rest with
      | nil => simp [pieces]
      | cons d more =>
        simp only [pieces]
        split
        · simp
        · split <;> simp
    obtain ⟨piece, more, h⟩ := List.exists_cons_of_ne_nil hne
    rw [h] at ih
    by_cases hb : b = slash
    · subst hb
      simpa [pieces, h, unpieces, List.intercalate] using ih
    · cases more with
      | nil => simpa [pieces, h, hb, unpieces, List.intercalate] using ih
      | cons next more => simpa [pieces, h, hb, unpieces, List.intercalate] using ih

/-- A path is the slash that it starts from and what comes after it. -/
theorem root_append_body (path : RawPath) : root path ++ body path = path := by
  rw [root, body]
  split
  · next h =>
    obtain ⟨rest, rfl⟩ := List.head?_eq_some_iff.mp (of_decide_eq_true h)
    rfl
  · rfl

end Path

end LocaleRelay.Files
