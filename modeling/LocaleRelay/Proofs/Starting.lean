import LocaleRelay.Process.Launch

/-!
# When a command can be started

A command is started exactly if nothing of it has a NUL, its directory is there, and its program
is found from that directory. The process is then the one that the command describes. Whatever the
fault is otherwise, one of these three is missing.
-/

namespace LocaleRelay.Command

open Files FileSystem

variable {files : FileSystem} {env : Environment} {command : Command} {launch : Launch}

/-! ### What a command needs -/

/-- A node that can be run: a regular file that may be executed. -/
def IsProgram (node : Node) : Prop := ∃ content, node = .file content true

/-- A path leads to a program. -/
def HasProgram (files : FileSystem) (path : RawPath) : Prop :=
  ∃ place node, files.lookup path = .ok (place, node) ∧ IsProgram node

/-- A path at which a search finds no program and goes on: it leads to no node, for a reason that
is passed over, or to one that cannot be run. -/
inductive LeavesSearch (files : FileSystem) (path : RawPath) : Prop
  | missing {fault : Fault} (h : files.lookup path = .error fault)
      (hover : isPassedOver fault = true)
  | refused {place : Location} {node : Node} (h : files.lookup path = .ok (place, node))
      (hnode : ¬ IsProgram node)

/-- A program is found: at the path that it is, if it has a slash, else in a directory of the search
path, before which the search finds nothing. -/
inductive Finds (files : FileSystem) (env : Environment) (program : String) : Prop
  | direct (hslash : '/' ∈ program.toList) (h : HasProgram files (utf8 program))
  | searched {before after : List String} {dir : String} (hslash : '/' ∉ program.toList)
      (hname : program ≠ "") (hdirs : searchPath env = before ++ dir :: after)
      (hbefore : ∀ other ∈ before, LeavesSearch files (Path.join (utf8 other) (utf8 program)))
      (h : HasProgram files (Path.join (utf8 dir) (utf8 program)))

/-- Nothing of a command has a NUL. -/
structure IsPlain (command : Command) : Prop where
  program : 0 ∉ utf8 command.program
  args : ∀ arg ∈ command.args, 0 ∉ arg
  directory : ∀ dir ∈ command.directory, 0 ∉ dir
  vars : ∀ pair ∈ command.vars.pairs, 0 ∉ utf8 pair.1 ∧ 0 ∉ utf8 pair.2

/-- The place that a command works in: that of its directory, or the one that the program itself
works in. -/
inductive WorksIn (files : FileSystem) (command : Command) : Location → Prop
  | own (h : command.directory = none) : WorksIn files command files.working
  | given {dir : RawPath} {place : Location} {entries : List (Name × Node)}
      (h : command.directory = some dir)
      (hdir : files.lookup dir = .ok (place, .directory entries)) :
      WorksIn files command place

/-- A command is started, as the process that it describes. -/
structure Starts (env : Environment) (files : FileSystem) (command : Command) (launch : Launch) :
    Prop where
  plain : command.IsPlain
  directory : WorksIn files command launch.directory
  program : Finds (files.within launch.directory) (env.apply command.vars) command.program
  number : launch.number = command.number
  argv : launch.argv = utf8 command.program :: command.args
  environment : launch.environment = env.apply command.vars

/-- A command cannot be started: something of it has a NUL, its directory is missing or none, or its
program is not found there. -/
inductive CannotStart (env : Environment) (files : FileSystem) (command : Command) : Prop
  | nul (h : ¬ command.IsPlain)
  | directory (h : ∀ place, ¬ WorksIn files command place)
  | program {place : Location} (hdir : WorksIn files command place)
      (h : ¬ Finds (files.within place) (env.apply command.vars) command.program)

/-! ### How it is found out -/

private theorem checkProgram_eq_ok_iff {path : RawPath} :
    checkProgram files path = .ok () ↔ HasProgram files path := by
  rw [checkProgram]
  constructor
  · intro h
    split at h
    · next place content hl => exact ⟨place, _, hl, content, rfl⟩
    · cases h
    · cases h
  · rintro ⟨place, _, hl, content, rfl⟩
    rw [hl]

private theorem leavesSearch_iff {path : RawPath} :
    LeavesSearch files path ↔
      ∃ fault, checkProgram files path = .error fault ∧ isPassedOver fault = true := by
  rw [checkProgram]
  constructor
  · rintro (⟨h, hover⟩ | ⟨h, hnode⟩)
    · exact ⟨_, by rw [h], hover⟩
    · refine ⟨.denied, ?_, rfl⟩
      rw [h]
      split
      · next place content hl =>
        cases hl
        exact absurd ⟨content, rfl⟩ hnode
      · rfl
      · next hl => cases hl
  · rintro ⟨fault, h, hover⟩
    split at h
    · cases h
    · next found hother hl =>
      obtain ⟨place, node⟩ := found
      refine .refused hl ?_
      rintro ⟨content, rfl⟩
      exact hother place content rfl
    · next hl =>
      cases h
      exact .missing hl hover

private theorem search_eq_ok_iff {program : String} {dirs : List String} {last : Fault} :
    search files program last dirs = .ok () ↔
      ∃ before dir after, dirs = before ++ dir :: after ∧
        (∀ other ∈ before, LeavesSearch files (Path.join (utf8 other) (utf8 program))) ∧
        HasProgram files (Path.join (utf8 dir) (utf8 program)) := by
  induction dirs generalizing last with
  | nil => simp [search]
  | cons first rest ih =>
    rw [search]
    cases hc : checkProgram files (Path.join (utf8 first) (utf8 program)) with
    | ok _ =>
      simp only [true_iff]
      exact ⟨[], first, rest, rfl, by simp, checkProgram_eq_ok_iff.mp hc⟩
    | error fault =>
      dsimp only
      constructor
      · intro h
        split at h
        · next hover =>
          obtain ⟨before, dir, after, rfl, hbefore, hdir⟩ := ih.mp h
          have hfirst := leavesSearch_iff.mpr ⟨fault, hc, hover⟩
          exact ⟨first :: before, dir, after, rfl, List.forall_mem_cons.mpr ⟨hfirst, hbefore⟩, hdir⟩
        · cases h
      · rintro ⟨before, dir, after, hdirs, hbefore, hdir⟩
        cases before with
        | nil =>
          obtain ⟨rfl, -⟩ := List.cons.inj hdirs
          rw [checkProgram_eq_ok_iff.mpr hdir] at hc
          cases hc
        | cons other before =>
          obtain ⟨rfl, rfl⟩ := List.cons.inj hdirs
          obtain ⟨hfirst, hmore⟩ := List.forall_mem_cons.mp hbefore
          obtain ⟨fault', hfault, hover⟩ := leavesSearch_iff.mp hfirst
          rw [hc] at hfault
          cases hfault
          rw [if_pos hover]
          exact ih.mpr ⟨before, dir, after, rfl, hmore, hdir⟩

private theorem findProgram_eq_ok_iff {program : String} :
    findProgram files env program = .ok () ↔ Finds files env program := by
  rw [findProgram]
  by_cases hname : program = ""
  · subst hname
    have hempty : ("" : String).isEmpty = true := rfl
    rw [if_pos hempty]
    constructor
    · intro h
      cases h
    · rintro (⟨hslash, -⟩ | ⟨-, hne, -⟩)
      · cases hslash
      · exact absurd rfl hne
  · have hempty : ¬ program.isEmpty = true := by simpa using hname
    rw [if_neg hempty]
    by_cases hslash : '/' ∈ program.toList
    · have hcontains : program.toList.contains '/' = true := by simpa using hslash
      rw [if_pos hcontains, checkProgram_eq_ok_iff]
      constructor
      · exact .direct hslash
      · rintro (⟨-, h⟩ | ⟨hno, -⟩)
        · exact h
        · exact absurd hslash hno
    · have hcontains : ¬ program.toList.contains '/' = true := by simpa using hslash
      rw [if_neg hcontains, search_eq_ok_iff]
      constructor
      · rintro ⟨before, dir, after, hdirs, hbefore, h⟩
        exact .searched hslash hname hdirs hbefore h
      · rintro (⟨hyes, -⟩ | ⟨-, -, hdirs, hbefore, h⟩)
        · exact absurd hyes hslash
        · exact ⟨_, _, _, hdirs, hbefore, h⟩

/-- The place that a command works in is found, if there is one. -/
theorem findDirectory_eq_ok_iff {place : Location} :
    findDirectory files command.directory = .ok place ↔ WorksIn files command place := by
  cases hd : command.directory with
  | none =>
    constructor
    · intro h
      cases h
      exact .own hd
    · rintro (h | ⟨h, -⟩)
      · rfl
      · rw [hd] at h
        cases h
  | some dir =>
    rw [findDirectory]
    constructor
    · intro h
      split at h
      · next entries hl =>
        cases h
        exact .given hd hl
      · cases h
      · cases h
    · rintro (h | ⟨h, hl⟩)
      · rw [hd] at h
        cases h
      · rw [hd] at h
        cases h
        rw [hl]

private theorem hasNul_iff {bytes : List UInt8} : hasNul bytes = true ↔ 0 ∈ bytes := by
  rw [hasNul, List.contains_iff_mem]

private theorem isUnusable_eq_false_iff : command.isUnusable = false ↔ command.IsPlain := by
  rw [← Bool.not_eq_true]
  simp only [isUnusable, Bool.or_eq_true, List.any_eq_true, Option.any_eq_true, hasNul_iff, not_or,
    not_exists, not_and]
  constructor
  · rintro ⟨⟨⟨program, args⟩, directory⟩, vars⟩
    exact ⟨program, args, directory, vars⟩
  · rintro ⟨program, args, directory, vars⟩
    exact ⟨⟨⟨program, args⟩, directory⟩, vars⟩

/-! ### Starting -/

/-- Launching a command gives the process that it describes, and no other. -/
theorem launch_eq_ok_iff :
    command.launch env files = .ok launch ↔ command.Starts env files launch := by
  constructor
  · intro h
    rw [Command.launch] at h
    split at h
    · cases h
    · next hplain =>
      cases hd : findDirectory files command.directory with
      | error fault =>
        rw [hd] at h
        cases h
      | ok place =>
        rw [hd] at h
        cases hf : findProgram (files.within place) (env.apply command.vars) command.program with
        | error fault =>
          simp only [hf, bind, Except.bind] at h
          cases h
        | ok _ =>
          simp only [hf, bind, Except.bind] at h
          cases h
          exact ⟨isUnusable_eq_false_iff.mp (by simpa using hplain), findDirectory_eq_ok_iff.mp hd,
            findProgram_eq_ok_iff.mp hf, rfl, rfl, rfl⟩
  · intro h
    obtain ⟨hplain, hd, hf, hnumber, hargv, henvironment⟩ := h
    obtain ⟨number, argv, place, environment⟩ := launch
    cases hnumber
    cases hargv
    cases henvironment
    simp only [Command.launch, isUnusable_eq_false_iff.mpr hplain, findDirectory_eq_ok_iff.mpr hd,
      findProgram_eq_ok_iff.mpr hf, bind, Except.bind]
    rfl

/-- A command gives no process exactly if it cannot be started. -/
theorem launch_eq_error_iff :
    (∃ fault, command.launch env files = .error fault) ↔ command.CannotStart env files := by
  constructor
  · rintro ⟨fault, h⟩
    have hno : ∀ launch, ¬ command.Starts env files launch := by
      intro launch hstarts
      rw [launch_eq_ok_iff.mpr hstarts] at h
      cases h
    by_cases hplain : command.IsPlain
    · by_cases hd : ∃ place, WorksIn files command place
      · obtain ⟨place, hplace⟩ := hd
        refine .program hplace fun hf => ?_
        exact hno ⟨_, _, place, _⟩ ⟨hplain, hplace, hf, rfl, rfl, rfl⟩
      · exact .directory (not_exists.mp hd)
    · exact .nul hplain
  · intro h
    cases hl : command.launch env files with
    | error fault => exact ⟨fault, rfl⟩
    | ok launch =>
      have hstarts := launch_eq_ok_iff.mp hl
      exfalso
      cases h with
      | nul hplain => exact hplain hstarts.plain
      | directory hd => exact hd _ hstarts.directory
      | program hdir hf =>
        have hplace := findDirectory_eq_ok_iff.mpr hdir
        rw [findDirectory_eq_ok_iff.mpr hstarts.directory] at hplace
        cases hplace
        exact hf hstarts.program

/-- A command is started, or it cannot be. -/
theorem starts_or_cannotStart (command : Command) (env : Environment) (files : FileSystem) :
    (∃ launch, command.Starts env files launch) ∨ command.CannotStart env files := by
  cases h : command.launch env files with
  | ok launch => exact .inl ⟨launch, launch_eq_ok_iff.mp h⟩
  | error fault => exact .inr (launch_eq_error_iff.mp ⟨fault, h⟩)

/-- A command is started as one process only. -/
theorem Starts.unique {other : Launch} (h : command.Starts env files launch)
    (h' : command.Starts env files other) : launch = other := by
  have hl := launch_eq_ok_iff.mpr h
  rw [launch_eq_ok_iff.mpr h'] at hl
  exact (Except.ok.inj hl).symm

/-- A command that is started is not one that cannot be. -/
theorem Starts.not_cannotStart (h : command.Starts env files launch) :
    ¬ command.CannotStart env files := by
  intro hcannot
  obtain ⟨fault, hl⟩ := launch_eq_error_iff.mpr hcannot
  rw [launch_eq_ok_iff.mpr h] at hl
  cases hl

end LocaleRelay.Command
