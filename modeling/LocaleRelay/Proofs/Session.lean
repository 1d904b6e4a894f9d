import LocaleRelay.Proofs.Effects
import LocaleRelay.Session

/-!
# What the program does around its run

Before a run the program reads arguments and a configuration, and after it there is only logging.
None of this changes a file or starts a process, so the files are those that the run left and the
processes are those of the run. Without a run there are none.
-/

namespace LocaleRelay

open Files

/-! ### Loading a configuration -/

namespace Config

private theorem idle_load (path : String) : (load path).Idle := by
  refine .bind (.lift (.log _ _ _ _)) fun _ => .bind (.lift .files) fun files => ?_
  split
  · exact .bind (.lift (.log _ _ _ _)) fun _ => .throw _
  · split
    · exact .pure _
    · split
      · exact .bind (.lift (.log _ _ _ _)) fun _ => .pure _
      · exact .bind (.lift (.log _ _ _ _)) fun _ => .throw _

/-- Loading a configuration is idle, whether there is one or not. -/
theorem idle_loadOrBuiltIn (path : Option String) : (loadOrBuiltIn path).Idle := by
  cases path with
  | none => exact .bind (.lift (.log _ _ _ _)) fun _ => .pure _
  | some path => exact idle_load path

/-- Logging a configuration is idle. -/
theorem idle_logLoaded (config : Config) : config.logLoaded.Idle :=
  .bind (.log _ _ _ _) fun _ => .log _ _ _ _

end Config

/-! ### Sessions -/

namespace Session

variable {host : Host} {path : Option String} {push : Bool} {setting : Setting} {files : FileSystem}

private theorem idle_logEnd (result : Except RunFailure RunReport) : (logEnd result).Idle := by
  cases result with
  | ok report => exact .log _ _ _ _
  | error failure => exact .log _ _ _ _

private theorem effect_load (path : Option String) (setting : Setting) (files : FileSystem) :
    (((Config.loadOrBuiltIn path).mapFailure SessionFailure.config).outcome setting files).effect =
      (((Config.loadOrBuiltIn path).outcome setting files).value.mapError .config, files, []) :=
  Attempt.effect_mapFailure _ (Config.idle_loadOrBuiltIn path).effect_outcome

/-- The effect of a session without a configuration: none but the failure. -/
theorem effect_perform_unloaded {failure : ConfigFailure}
    (h : ((Config.loadOrBuiltIn path).outcome setting files).value = .error failure) :
    ((perform host path push).outcome setting files).effect =
      (.error (.config failure), files, []) := by
  have hload := effect_load path setting files
  rw [h] at hload
  rw [perform, Attempt.effect_bind_idle (.log _ _ _ _)]
  exact Attempt.effect_bind_error hload

private theorem effect_report (result : Except RunFailure RunReport) (setting : Setting)
    (files : FileSystem) :
    (Attempt.outcome (do
      logEnd result
      match result with
      | .ok report => return report
      | .error failure => throw (SessionFailure.run failure)) setting files).effect =
        (result.mapError SessionFailure.run, files, []) := by
  rw [Attempt.effect_bind_idle (idle_logEnd result)]
  cases result with
  | ok report => rfl
  | error failure => rfl

/-- The effect of a session with a configuration is that of its run. -/
theorem effect_perform_loaded {config : Config} {result : Except RunFailure RunReport}
    {after : FileSystem} {started : List Launch}
    (h : ((Config.loadOrBuiltIn path).outcome setting files).value = .ok config)
    (hr : ((Run.perform config (config.tools host) push).outcome setting files).effect =
      (result, after, started)) :
    ((perform host path push).outcome setting files).effect =
      (result.mapError .run, after, started) := by
  have hload := effect_load path setting files
  rw [h] at hload
  rw [perform, Attempt.effect_bind_idle (.log _ _ _ _), ← List.nil_append started]
  refine Attempt.effect_bind_ok hload ?_
  rw [Attempt.effect_bind_idle config.idle_logLoaded, ← List.append_nil started]
  exact Attempt.effect_bind_ok (Attempt.effect_lift hr) (effect_report result setting after)

end Session

/-! ### The program -/

namespace Program

variable {host : Host} {arguments : List String} {options : Options} {config : Config}
  {setting : Setting} {files after : FileSystem} {started : List Launch}

private theorem idle_conclude (result : Except SessionFailure RunReport) :
    (conclude result).Idle := by
  cases result with
  | ok report => exact .bind (.log _ _ _ _) fun _ => .pure _
  | error failure => exact .bind (.log _ _ _ _) fun _ => .pure _

private theorem effect_perform {result : Except SessionFailure RunReport}
    (h : Arguments.read arguments = .ok options)
    (hs : ((Session.perform host options.config options.push).outcome setting files).effect =
      (result, after, started)) :
    ((perform host arguments).run setting files).effect =
      (((conclude result).run setting after).value, after, started) := by
  have hsession := Act.effect_bind hs (idle_conclude result).effect_run
  rw [List.append_nil] at hsession
  unfold perform
  rw [h]
  exact Act.effect_bind (Act.Idle.log _ _ _ _).effect_run hsession

/-- Where the arguments do not ask for a run the program has no effect but a status. -/
theorem effect_perform_stopped {stop : Stop} (h : Arguments.read arguments = .error stop)
    (host : Host) (setting : Setting) (files : FileSystem) :
    ((perform host arguments).run setting files).effect = (stop.exitCode, files, []) := by
  unfold perform
  rw [h]
  rfl

/-- Without a configuration the program has no effect but a status. -/
theorem effect_perform_unloaded {failure : ConfigFailure}
    (h : Arguments.read arguments = .ok options)
    (hc : ((Config.loadOrBuiltIn options.config).outcome setting files).value = .error failure)
    (host : Host) : ((perform host arguments).run setting files).effect = (1, files, []) :=
  effect_perform h (Session.effect_perform_unloaded hc)

/-- With a run that fails the effect is that of the run, and the status is that of the failure. -/
theorem effect_perform_failed {failure : RunFailure} (h : Arguments.read arguments = .ok options)
    (hc : ((Config.loadOrBuiltIn options.config).outcome setting files).value = .ok config)
    (hr : ((Run.perform config (config.tools host) options.push).outcome setting files).effect =
      (.error failure, after, started)) :
    ((perform host arguments).run setting files).effect = (failure.exitCode, after, started) :=
  effect_perform h (Session.effect_perform_loaded hc hr)

/-- With a run that is complete the effect is that of the run, and the status is zero. -/
theorem effect_perform_completed {report : RunReport} (h : Arguments.read arguments = .ok options)
    (hc : ((Config.loadOrBuiltIn options.config).outcome setting files).value = .ok config)
    (hr : ((Run.perform config (config.tools host) options.push).outcome setting files).effect =
      (.ok report, after, started)) :
    ((perform host arguments).run setting files).effect = (0, after, started) :=
  effect_perform h (Session.effect_perform_loaded hc hr)

end Program

end LocaleRelay
