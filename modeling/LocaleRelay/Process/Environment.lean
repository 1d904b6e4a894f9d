import LocaleRelay.Text.Line

/-!
# Environments

The variables that a process sees, and changes to them. An environment is kept in the order of the
names; giving a variable anew replaces its value, so of several changes to one name the last one
counts, while reading a list of changes answers with the first.
-/

namespace LocaleRelay

/-- Changes to an environment: names with their new values, in the order in which they apply. -/
structure Variables where
  pairs : List (String × String)
  deriving Repr, DecidableEq

namespace Variables

/-- No change. -/
def none : Variables := ⟨[]⟩

/-- The value of the first change of a name. -/
def get? (vars : Variables) (name : String) : Option String :=
  (vars.pairs.find? fun pair => pair.1 = name).map (·.2)

end Variables

/-- The variables of a process, in the order of their names. -/
structure Environment where
  pairs : List (String × String)
  deriving Repr, DecidableEq

namespace Environment

/-- The environment without variables. -/
def empty : Environment := ⟨[]⟩

/-- Variables with one of them set. -/
def setPair (name value : String) : List (String × String) → List (String × String)
  | [] => [(name, value)]
  | (key, old) :: rest =>
    if name = key then (name, value) :: rest
    else if name < key then (name, value) :: (key, old) :: rest
    else (key, old) :: setPair name value rest

/-- The environment with a variable set. -/
def set (env : Environment) (name value : String) : Environment :=
  ⟨setPair name value env.pairs⟩

/-- The environment after changes, applied in order. -/
def apply (env : Environment) (vars : Variables) : Environment :=
  vars.pairs.foldl (fun env pair => env.set pair.1 pair.2) env

/-- The value that a process finds under a name: the rest of the first entry `name=value` that
begins with the name and an equals sign. -/
def get? (env : Environment) (name : String) : Option String :=
  (env.pairs.findSome? fun pair =>
    Text.after? (name.toList ++ ['=']) (pair.1.toList ++ '=' :: pair.2.toList)).map String.ofList

/-- The first of several changes applies before the others. -/
theorem apply_cons (env : Environment) (name value : String) (rest : List (String × String)) :
    env.apply ⟨(name, value) :: rest⟩ = (env.set name value).apply ⟨rest⟩ := rfl

end Environment

end LocaleRelay
