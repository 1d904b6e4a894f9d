import LocaleRelay.Process.Environment

/-!
# Variables after changes

A variable that is set is found under its name with the value that was set, and no other variable
is found with another value. After changes in a row a process finds the last value that was given to
a name, while reading the row finds the first.
-/

namespace LocaleRelay

/-- The value of the last change of a name. -/
def Variables.last? (vars : Variables) (name : String) : Option String :=
  (vars.pairs.reverse.find? fun pair => pair.1 = name).map (·.2)

/-- After one change and others, the others come last. -/
theorem Variables.last?_cons (key value name : String) (rest : List (String × String)) :
    Variables.last? ⟨(key, value) :: rest⟩ name =
      (Variables.last? ⟨rest⟩ name).or (if key = name then some value else Option.none) := by
  have hfirst : ([(key, value)].find? fun pair => pair.1 = name).map (·.2) =
      if key = name then some value else Option.none := by
    by_cases h : key = name <;> simp [h]
  rw [last?, last?, List.reverse_cons, List.find?_append, Option.map_or, hfirst]

namespace Environment

/-! ### One change -/

private theorem lt_of_begins {name key : String} {c : Char}
    (h : name.toList ++ [c] <+: key.toList) :
    name < key := by
  obtain ⟨rest, hrest⟩ := h
  rw [String.lt_iff, ← hrest, List.append_assoc, List.singleton_append]
  have hlt : name.toList ++ [] < name.toList ++ c :: rest :=
    List.append_left_lt (List.nil_lt_cons c rest)
  rwa [List.append_nil] at hlt

private theorem key_of_after?_entry {name key : String} (hn : '=' ∉ name.toList)
    {old rest : List Char}
    (h : Text.after? (name.toList ++ ['=']) (key.toList ++ '=' :: old) = some rest) :
    key = name ∨ name.toList ++ ['='] <+: key.toList := by
  rw [Text.after?_eq_some_iff, List.append_assoc, List.append_eq_append_iff] at h
  rcases h with ⟨more, hname, hmore⟩ | ⟨more, hkey, hmore⟩
  · cases more with
    | nil =>
      rw [List.append_nil, String.toList_inj] at hname
      exact .inl hname.symm
    | cons c more =>
      obtain ⟨rfl, -⟩ := List.cons_eq_cons.mp hmore
      exact absurd (by simp [hname]) hn
  · cases more with
    | nil =>
      rw [List.append_nil, String.toList_inj] at hkey
      exact .inl hkey
    | cons c more =>
      obtain ⟨rfl, -⟩ := List.cons_eq_cons.mp hmore
      refine .inr ⟨more, ?_⟩
      rw [hkey, List.append_assoc, List.singleton_append]

private theorem after?_entry_of_not_lt {name key : String} (hn : '=' ∉ name.toList)
    (hk : name ≠ key) (hlt : ¬ name < key) (old : List Char) :
    Text.after? (name.toList ++ ['=']) (key.toList ++ '=' :: old) = none := by
  rw [Option.eq_none_iff_forall_ne_some]
  intro rest hrest
  rcases key_of_after?_entry hn hrest with rfl | hbegins
  · exact hk rfl
  · exact hlt (lt_of_begins hbegins)

private theorem after?_entry_of_ne {name key : String} (hn : '=' ∉ name.toList)
    (hkey : '=' ∉ key.toList) (hk : name ≠ key) (old : List Char) :
    Text.after? (name.toList ++ ['=']) (key.toList ++ '=' :: old) = none := by
  rw [Option.eq_none_iff_forall_ne_some]
  intro rest hrest
  rcases key_of_after?_entry hn hrest with rfl | hbegins
  · exact hk rfl
  · exact hkey (hbegins.subset (by simp))

private theorem findSome?_setPair {name : String} (hn : '=' ∉ name.toList) (value : String)
    (pairs : List (String × String)) :
    ((setPair name value pairs).findSome? fun pair =>
      Text.after? (name.toList ++ ['=']) (pair.1.toList ++ '=' :: pair.2.toList)) =
        some value.toList := by
  have hself : Text.after? (name.toList ++ ['=']) (name.toList ++ '=' :: value.toList) =
      some value.toList := by
    rw [Text.after?_eq_some_iff]
    simp
  induction pairs with
  | nil => rw [setPair, List.findSome?_cons, hself]
  | cons pair rest ih =>
    obtain ⟨key, old⟩ := pair
    rw [setPair]
    split
    · rw [List.findSome?_cons, hself]
    · next hk =>
      split
      · rw [List.findSome?_cons, hself]
      · next hlt => rw [List.findSome?_cons, after?_entry_of_not_lt hn hk hlt, ih]

private theorem findSome?_setPair_of_ne {name other : String} (hn : '=' ∉ name.toList)
    (ho : '=' ∉ other.toList) (hne : other ≠ name) (value : String)
    (pairs : List (String × String)) :
    ((setPair name value pairs).findSome? fun pair =>
      Text.after? (other.toList ++ ['=']) (pair.1.toList ++ '=' :: pair.2.toList)) =
        pairs.findSome? fun pair =>
          Text.after? (other.toList ++ ['=']) (pair.1.toList ++ '=' :: pair.2.toList) := by
  have hskip : ∀ value : String,
      Text.after? (other.toList ++ ['=']) (name.toList ++ '=' :: value.toList) = none :=
    fun value => after?_entry_of_ne ho hn hne value.toList
  induction pairs with
  | nil => rw [setPair, List.findSome?_cons, hskip]
  | cons pair rest ih =>
    obtain ⟨key, old⟩ := pair
    rw [setPair]
    split
    · next hk =>
      subst hk
      rw [List.findSome?_cons, List.findSome?_cons, hskip, hskip]
    · split
      · rw [List.findSome?_cons, hskip]
      · rw [List.findSome?_cons, List.findSome?_cons, ih]

/-- A variable that was set is found with its value. -/
theorem get?_set {name : String} (hn : '=' ∉ name.toList) (env : Environment) (value : String) :
    (env.set name value).get? name = some value := by
  rw [get?, set, findSome?_setPair hn value, Option.map_some, String.ofList_toList]

/-- Setting a variable leaves every other variable as it was. -/
theorem get?_set_of_ne {name other : String} (hn : '=' ∉ name.toList) (ho : '=' ∉ other.toList)
    (hne : other ≠ name) (env : Environment) (value : String) :
    (env.set name value).get? other = env.get? other := by
  rw [get?, get?, set, findSome?_setPair_of_ne hn ho hne]

/-! ### Changes in a row -/

/-- After changes a process finds the last value that was given to a name, and where none was given
the value from before. -/
theorem get?_apply {name : String} (hname : '=' ∉ name.toList) (env : Environment)
    {pairs : List (String × String)} (hpairs : ∀ pair ∈ pairs, '=' ∉ pair.1.toList) :
    (env.apply ⟨pairs⟩).get? name = (Variables.last? ⟨pairs⟩ name).or (env.get? name) := by
  -- The environment is left open: each change is applied to what those before it made of it.
  induction pairs generalizing env with
  | nil => rfl
  | cons pair rest ih =>
    obtain ⟨key, value⟩ := pair
    obtain ⟨hkey, hrest⟩ := List.forall_mem_cons.mp hpairs
    have hset : (env.set key value).get? name =
        (if key = name then some value else none).or (env.get? name) := by
      split
      · next h =>
        subst h
        rw [get?_set hname, Option.some_or]
      · next h => rw [get?_set_of_ne hkey hname (Ne.symm h), Option.none_or]
    rw [apply_cons, ih _ hrest, hset, Variables.last?_cons, Option.or_assoc]

end Environment

end LocaleRelay
