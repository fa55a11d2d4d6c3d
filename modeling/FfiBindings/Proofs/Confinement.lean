import FfiBindings.Proofs.Saving

/-!
# What an action is confined to

An action is confined to some locations when it changes no others, apart from the log, and starts
nothing. Actions that are confined make confined actions, so it is enough to know of each file that is
written where it lies.
-/

namespace FfiBindings

open FileSystem

/-- Whether a host has become another one by changes at some locations and in the log. It may have put
something out and have read its input. -/
structure Host.Keeps (allowed : Location → Prop) (host after : Host) : Prop where
  directory : after.directory = host.directory
  log : after.log = host.log
  launches : after.launches = host.launches
  elsewhere : ∀ location, host.logLocation? ≠ some location → ¬ allowed location →
    after.files.entryAt? location = host.files.entryAt? location

namespace Host.Keeps

variable {allowed : Location → Prop} {host between after : Host}

theorem refl (host : Host) : host.Keeps allowed host := ⟨rfl, rfl, rfl, fun _ _ _ => rfl⟩

theorem logLocation? (keeps : host.Keeps allowed after) : after.logLocation? = host.logLocation? := by
  rw [Host.logLocation?, Host.logLocation?, keeps.directory, keeps.log]

theorem trans (first : host.Keeps allowed between) (second : between.Keeps allowed after) :
    host.Keeps allowed after where
  directory := second.directory.trans first.directory
  log := second.log.trans first.log
  launches := second.launches.trans first.launches
  elsewhere location off other := by
    rw [second.elsewhere location (first.logLocation? ▸ off) other,
      first.elsewhere location off other]

theorem of_logsOnly (logs : host.LogsOnly after) : host.Keeps allowed after where
  directory := logs.setting.directory
  log := by rw [show after = _ from logs.setting]
  launches := logs.setting.launches
  elsewhere location off _ := logs.elsewhere location off

end Host.Keeps

/-- An effect that is confined to some locations, on every host that came from the first one by no other
changes. -/
def Effect.Confined {α : Type} (frame : Host) (allowed : Location → Prop) (effect : Effect α) : Prop :=
  ∀ ⦃host⦄, frame.Keeps allowed host → frame.Keeps allowed (effect.run host).2

/-- An action that is confined to some locations. -/
def Action.Confined {ε α : Type} (frame : Host) (allowed : Location → Prop) (action : Action ε α) :
    Prop :=
  ∀ ⦃host⦄, frame.Keeps allowed host → frame.Keeps allowed (action.on host).2

variable {frame : Host} {allowed : Location → Prop} {ε ε' α β : Type}

theorem Effect.confined_of_logsOnly {effect : Effect α}
    (logs : ∀ host : Host, host.LogsOnly (effect.run host).2) : effect.Confined frame allowed :=
  fun host keeps => keeps.trans (.of_logsOnly (logs host))

theorem Effect.confined_write (message : Log.Message) : (Log.write message).Confined frame allowed :=
  confined_of_logsOnly (Host.logsOnly_write message)

theorem Effect.confined_pure (value : α) : (pure value : Effect α).Confined frame allowed :=
  fun _ keeps => keeps

theorem Effect.Confined.bind {first : Effect α} {next : α → Effect β}
    (one : first.Confined frame allowed) (later : ∀ value, (next value).Confined frame allowed) :
    Effect.Confined frame allowed (first >>= next) :=
  fun _ keeps => later _ (one keeps)

namespace Action

theorem confined_pure (value : α) : (pure value : Action ε α).Confined frame allowed :=
  fun _ keeps => keeps

theorem confined_throw (error : ε) : (throw error : Action ε α).Confined frame allowed :=
  fun _ keeps => keeps

theorem Confined.bind {action : Action ε α} {next : α → Action ε β}
    (first : action.Confined frame allowed) (later : ∀ value, (next value).Confined frame allowed) :
    (action >>= next).Confined frame allowed := by
  intro host keeps
  have between := first keeps
  rcases ran : action.on host with ⟨error | value, after⟩
  · rw [on_bind_of_error ran]
    rwa [ran] at between
  · rw [on_bind_of_ok ran]
    rw [ran] at between
    exact later value between

theorem Confined.lift {effect : Effect α} (confined : effect.Confined frame allowed) :
    (liftM effect : Action ε α).Confined frame allowed :=
  fun _ keeps => confined keeps

theorem Confined.after {effect : Effect α} {next : α → Action ε β}
    (first : effect.Confined frame allowed) (later : ∀ value, (next value).Confined frame allowed) :
    ((liftM effect : Action ε α) >>= next).Confined frame allowed :=
  fun _ keeps => later _ (first keeps)

theorem Confined.orElseThrow {action : Action ε α} (confined : action.Confined frame allowed)
    (wrap : ε → ε') : (action.orElseThrow wrap).Confined frame allowed :=
  fun _ keeps => confined keeps

/-- Writing a file is confined to where the path of the file leads. -/
theorem confined_writeText {path : Path} (content : Text)
    (isAllowed : allowed (destination frame.directory path)) :
    (Host.writeText path content).Confined frame allowed := by
  intro host keeps
  have allows {content : Bytes} {files : FileSystem}
      (written : host.files.write host.directory path content = .ok files) :
      frame.Keeps allowed { host with files } := by
    obtain ⟨elsewhere, -⟩ := write_changes written
    refine keeps.trans ⟨rfl, rfl, rfl, fun location off other => elsewhere location fun here => ?_⟩
    rw [keeps.directory, Option.some.injEq] at here
    exact other (here ▸ isAllowed)
  rcases Host.writeText_cases path content host with
    ⟨fault, -, ended⟩ | ⟨files, -, written, ended⟩ | ⟨files, -, written, ended⟩ <;> rw [ended]
  · exact keeps
  · exact allows written
  · exact allows written

/-- Reading a line changes no file. -/
theorem confined_readLine : Host.readLine.Confined frame allowed := by
  intro host keeps
  unfold Host.readLine
  rw [on_get_bind]
  dsimp only
  split <;> exact keeps.trans ⟨rfl, rfl, rfl, fun _ _ _ => rfl⟩

/-- Saving a configuration is confined to the project file. -/
theorem confined_saveTo (config : Config) {directory : Path}
    (isAllowed : allowed (destination frame.directory (directory.join Config.fileName))) :
    (config.saveTo directory).Confined frame allowed := by
  unfold Config.saveTo
  dsimp only
  split
  · exact confined_throw _
  · exact ((confined_writeText _ isAllowed).orElseThrow _).bind fun _ => confined_pure _

end Action

end FfiBindings
