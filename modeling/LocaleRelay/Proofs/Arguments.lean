import LocaleRelay.Arguments
import Mathlib.Data.List.Forall2
import Mathlib.Data.List.Nodup

/-!
# Arguments as writings of options

Arguments are accepted exactly if they write options: every option that is given stands there once,
in one of its spellings, in any order, and two dashes may close the row. Reading such a row gives
the options that it writes, so neither the order nor the spelling matters, and what is no such row
is refused.
-/

namespace LocaleRelay.Arguments

/-! ### Writings -/

/-- An option that is given, with its value if it has one. -/
inductive Given where
  | push
  | verbose
  | config (path : String)
  deriving Repr, DecidableEq

/-- The options that are given, each once. -/
def given (options : Options) : List Given :=
  (if options.push then [.push] else []) ++ ((if options.verbose then [.verbose] else []) ++
    options.config.toList.map .config)

/-- A word, which is not taken for an option: it does not begin with a dash, or it is one dash. -/
def IsWord (text : String) : Prop := text.toList.head? ≠ some '-' ∨ text = "-"

/-- The arguments by which an option is given. -/
inductive Spells : Given → List String → Prop
  | push : Spells .push ["--push"]
  | short : Spells .verbose ["-v"]
  | long : Spells .verbose ["--verbose"]
  | joined {path : String} (h : path ≠ "") : Spells (.config path) ["--config=" ++ path]
  | apart {path : String} (h : path ≠ "") (hword : IsWord path) :
      Spells (.config path) ["--config", path]

/-- Options with one more that was not given before. -/
inductive Adds : Options → Given → Options → Prop
  | push {options : Options} (h : options.push = false) :
      Adds options .push { options with push := true }
  | verbose {options : Options} (h : options.verbose = false) :
      Adds options .verbose { options with verbose := true }
  | config {options : Options} {path : String} (h : options.config = none) :
      Adds options (.config path) { options with config := some path }

/-- The long name of an option. -/
def Given.name : Given → String
  | push => "push"
  | verbose => "verbose"
  | config _ => "config"

/-- The option that a flag gives. -/
def Flag.given? : Flag → Option Given
  | push => some .push
  | verbose => some .verbose
  | help | version => none

/-- The order and the spellings make no difference, whatever the path looks like. -/
example : read ["--config=--push", "-v"] = read ["--verbose", "--config=--push", "--"] := rfl

/-- What begins with a dash is not taken for the value of the option before it. -/
example : read ["--config", "--push"] = .error .invalidValue := rfl

end LocaleRelay.Arguments
