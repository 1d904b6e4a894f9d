import LocaleRelay.Credentials
import LocaleRelay.Proofs.Files.Ancestor
import LocaleRelay.Proofs.Utf8

/-!
# The path of a key

Paths are compared by their components: repeated slashes, slashes at the end and dots inside make no
difference. A tilde alone stands for the home directory, and a tilde before a slash for a path in
it, unless another slash follows: then what comes after the first slash is an absolute path of its
own, and the home directory has no part in it.
-/

namespace LocaleRelay

namespace Files.Path

/-! ### Components -/

/-- A component of a path: the slash that an absolute path begins with, or a name between
slashes. -/
inductive Component where
  | root
  | name (name : Name)
  deriving Repr, DecidableEq

/-- The pieces that name something. Only the first one of a relative path may be a dot. -/
def names : (relative : Bool) → List Name → List Name
  | _, [] => []
  | relative, piece :: more =>
    if isIdle relative piece then names false more else piece :: names false more

/-- The components of a path that follow others, after a slash. -/
def componentsAfter (path : RawPath) : List Component := (names false (pieces path)).map .name

/-- The components of a path. -/
def components (path : RawPath) : List Component :=
  if isAbsolute path then .root :: componentsAfter (body path)
  else (names true (pieces path)).map .name

/-- Whether two paths are the same but for how they are written. -/
def Same (path other : RawPath) : Prop := components path = components other

instance (path other : RawPath) : Decidable (Same path other) :=
  inferInstanceAs (Decidable (components path = components other))

private theorem names_append (relative : Bool) {first : List Name} (hf : first ≠ [])
    (second : List Name) :
    names relative (first ++ second) = names relative first ++ names false second := by
  induction first generalizing relative with
  | nil => exact absurd rfl hf
  | cons piece first ih =>
    have hrest : names false (first ++ second) = names false first ++ names false second := by
      cases first with
      | nil => rfl
      | cons next first => exact ih false (by simp)
    rw [List.cons_append, names, names, hrest]
    split <;> rfl

private theorem componentsAfter_append (front rest : RawPath) :
    componentsAfter (front ++ slash :: rest) = componentsAfter front ++ componentsAfter rest := by
  rw [componentsAfter, pieces_append, names_append _ (pieces_ne_nil front), List.map_append]
  rfl

private theorem componentsAfter_nil : componentsAfter [] = [] := rfl

private theorem componentsAfter_slash (rest : RawPath) :
    componentsAfter (slash :: rest) = componentsAfter rest :=
  componentsAfter_append [] rest

/-- An absolute path begins at the root, wherever its further components are written. -/
theorem components_absolute {path : RawPath} (h : isAbsolute path) :
    components path = .root :: componentsAfter path := by
  obtain ⟨rest, rfl⟩ := List.head?_eq_some_iff.mp (of_decide_eq_true h)
  rw [components, if_pos h, body, if_pos h, List.tail_cons, componentsAfter_slash]

private theorem components_relative {path : RawPath} (h : ¬ isAbsolute path) :
    components path = (names true (pieces path)).map .name := by
  rw [components, if_neg h]

private theorem isAbsolute_append {front : RawPath} (hf : front ≠ []) (rest : RawPath) :
    isAbsolute (front ++ rest) = isAbsolute front := by
  rw [isAbsolute, List.head?_append, Option.or_of_isSome (by simpa using hf), isAbsolute]

/-! ### Continued paths -/

variable {base : RawPath}

/-- What is written after a slash adds its components to those of what is written before. -/
theorem components_append (hb : base ≠ []) (rest : RawPath) :
    components (base ++ slash :: rest) = components base ++ componentsAfter rest := by
  have hwhole := isAbsolute_append hb (slash :: rest)
  by_cases h : isAbsolute base = true
  · rw [components_absolute h, components_absolute (hwhole.trans h), componentsAfter_append,
      List.cons_append]
  · rw [components_relative h, components_relative (hwhole ▸ h), pieces_append,
      names_append _ (pieces_ne_nil base), List.map_append]
    rfl

private theorem components_append_of_slash (hb : base.getLast? = some slash) (rest : RawPath) :
    components (base ++ rest) = components base ++ componentsAfter rest := by
  obtain ⟨before, rfl⟩ := List.getLast?_eq_some_iff.mp hb
  rw [List.append_assoc, List.singleton_append]
  cases before with
  | nil =>
    have habsolute : isAbsolute (slash :: rest) := rfl
    rw [List.nil_append, components_absolute habsolute, componentsAfter_slash]
    rfl
  | cons b before =>
    rw [components_append (by simp), components_append (by simp), componentsAfter_nil,
      List.append_nil]

/-- An absolute path replaces the one that it continues. -/
theorem join_absolute {rest : RawPath} (h : isAbsolute rest) (base : RawPath) :
    join base rest = rest := by
  rw [join, if_pos h]

/-- A relative path adds its components to those of the path that it continues. -/
theorem components_join_relative (hb : base ≠ []) {rest : RawPath} (h : ¬ isAbsolute rest) :
    components (join base rest) = components base ++ componentsAfter rest := by
  rw [join, if_neg h]
  split
  · next hslash =>
    have hlast : base.getLast? = some slash := by simpa [hb] using hslash
    exact components_append_of_slash hlast rest
  · exact components_append hb rest

/-- Continuing a path is writing the two with a slash between them, unless the second one is
absolute and the first one is not the root. -/
theorem same_join_iff (hb : base ≠ []) (rest : RawPath) :
    Same (join base rest) (base ++ slash :: rest) ↔
      (isAbsolute rest → components base = [.root]) := by
  rw [Same, components_append hb]
  by_cases h : isAbsolute rest = true
  · rw [join_absolute h, components_absolute h, ← List.singleton_append, List.append_left_inj]
    simp only [h, true_implies]
    exact eq_comm
  · rw [components_join_relative hb h]
    simp [h]

/-- The path that a text writes is absolute exactly if the text begins with a slash. -/
theorem isAbsolute_utf8_iff {text : String} : isAbsolute (utf8 text) ↔ text.startsWith "/" := by
  have hslash : utf8 "/" = [slash] := by decide
  rw [String.startsWith_string_iff, ← Text.utf8_prefix_iff, hslash, isAbsolute,
    decide_eq_true_iff, List.head?_eq_some_iff]
  exact exists_congr fun _ => eq_comm

/-- A path in UTF-8 continued by another one is UTF-8. -/
theorem isUtf8_join {base rest : RawPath} (hb : Text.IsUtf8 base) (hr : Text.IsUtf8 rest) :
    Text.IsUtf8 (join base rest) := by
  have hslash : slash.toNat < 128 := by decide
  rw [join]
  split
  · exact hr
  · split
    · exact hb.append hr
    · exact (Text.isUtf8_append_cons_iff hslash).mpr ⟨hb, hr⟩

end Files.Path

namespace Credentials

open Files

/-! ### The tilde -/

/-- How paths are read with a home directory: a tilde that is all of a path, or comes before its
first slash, stands for the home directory, and every other path is taken as it is written. -/
structure ExpandsTilde (home : RawPath) (expand : String → RawPath) : Prop where
  alone : expand "~" = home
  inside_iff : ∀ rest, Path.Same (expand ("~/" ++ rest)) (home ++ slash :: utf8 rest) ↔
    (rest.startsWith "/" → Path.components home = [.root])
  begins : ∀ rest, (rest.startsWith "/" → Path.components home = [.root]) →
    Path.components home <+: Path.components (expand ("~/" ++ rest))
  replaced : ∀ rest, rest.startsWith "/" → expand ("~/" ++ rest) = utf8 rest
  untouched : ∀ path, path ≠ "~" → ¬ path.startsWith "~/" → expand path = utf8 path

private theorem keyPath_tilde (home : RawPath) (rest : String) :
    keyPath (some home) ("~/" ++ rest) = Path.join home (utf8 rest) := by
  simp [keyPath]

private theorem keyPath_untouched {path : String} (home : Option RawPath) (htilde : path ≠ "~")
    (hslash : ¬ path.startsWith "~/") : keyPath home path = utf8 path := by
  unfold keyPath
  split
  · next h => exact absurd (String.toList_inj.mp h) htilde
  · next rest h =>
    refine absurd (String.startsWith_string_iff.mpr ?_) hslash
    exact ⟨rest, h.symm⟩
  · rfl

/-- Without a home directory a tilde alone leaves nothing, and every other path is taken as it is
written. -/
theorem keyPath_homeless (path : String) :
    keyPath none path = if path = "~" then [] else utf8 path := by
  by_cases h : path = "~"
  · rw [if_pos h, h]
    rfl
  · rw [if_neg h, keyPath]
    split
    · next htilde => exact absurd (String.toList_inj.mp htilde) h
    · rfl
    · rfl

/-- The path of a key has its tilde replaced by the home directory and is otherwise as it is
written; only an absolute path after the tilde's slash leaves the home directory out. -/
theorem expandsTilde_keyPath {home : RawPath} (hhome : home ≠ []) :
    ExpandsTilde home (keyPath (some home)) where
  alone := rfl
  inside_iff rest := by
    rw [keyPath_tilde, Path.same_join_iff hhome, Path.isAbsolute_utf8_iff]
  begins rest hrest := by
    rw [← Path.isAbsolute_utf8_iff] at hrest
    rw [keyPath_tilde, (Path.same_join_iff hhome _).mpr hrest, Path.components_append hhome]
    exact List.prefix_append _ _
  replaced rest hrest := by
    rw [keyPath_tilde]
    exact Path.join_absolute (Path.isAbsolute_utf8_iff.mpr hrest) home
  untouched path htilde hslash := keyPath_untouched (some home) htilde hslash

/-- A key in a home directory that is written with a slash at its end, with a dot and repeated
slashes on the way. -/
theorem expandsTilde_keyPath_dotted :
    let home := utf8 "/home/relay/"
    home ≠ [] ∧
      Path.Same (keyPath (some home) ("~/" ++ "./.ssh//key/")) (utf8 "/home/relay/.ssh/key") ∧
      Path.components home <+:
        Path.components (keyPath (some home) ("~/" ++ "./.ssh//key/")) ∧
      keyPath (some home) "~relay/key" = utf8 "~relay/key" := by
  intro home
  have hhome : home ≠ [] := by decide +kernel
  have hexpands := expandsTilde_keyPath hhome
  have hrelative : ("./.ssh//key/".startsWith "/" → Path.components home = [.root]) := by
    decide +kernel
  refine ⟨hhome, ?_, hexpands.begins _ hrelative, hexpands.untouched _ (by decide) ?_⟩
  · have hinside := (hexpands.inside_iff "./.ssh//key/").mpr hrelative
    exact hinside.trans (by decide +kernel)
  · decide +kernel

/-- With two slashes after the tilde the home directory is lost. -/
theorem not_inside_two_slashes :
    let home := utf8 "home"
    ¬ Path.Same (keyPath (some home) ("~/" ++ "/key")) (home ++ slash :: utf8 "/key") ∧
      ¬ Path.components home <+: Path.components (keyPath (some home) ("~/" ++ "/key")) ∧
      keyPath (some home) ("~/" ++ "/key") = utf8 "/key" := by
  decide +kernel

end Credentials

end LocaleRelay
