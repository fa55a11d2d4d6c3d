import FfiBindings.Proofs.Agreement

/-!
# What a build does

A build prepares, starts the toolchain, and tells how that went. What it does before the start is
steady, and afterwards it only logs. So where the toolchain pays no attention to the log, alike hosts end
the same.
-/

namespace FfiBindings

open FileSystem

/-- A program pays no attention to the log: neither how it ends nor what it does elsewhere depends on
what the log holds. -/
def Program.IgnoresLog (behaviour : Program.Behaviour) (log : Option Location) : Prop :=
  ∀ invocation files others, SameBesides log files others →
    (behaviour invocation files).1 = (behaviour invocation others).1 ∧
      SameBesides log (behaviour invocation files).2 (behaviour invocation others).2

/-- A program is started with the files as they are, and they are left as it leaves them. -/
theorem Program.launch_on (behaviour : Program.Behaviour) (program : Path) (arguments : List Bytes)
    (directory : Path) (host : Host) :
    (Program.launch behaviour program arguments directory).on host =
      match Program.invocation host program arguments directory with
      | .error fault => (.error fault, host)
      | .ok started => (.ok (behaviour started host.files).1,
          { host with
            files := (behaviour started host.files).2
            launches := host.launches ++ [started] }) := by
  unfold Program.launch
  rw [Action.on_get_bind]
  cases Program.invocation host program arguments directory <;> rfl

/-- Hosts whose logs are at one location, with the same files elsewhere and the same programs
started. -/
structure Host.SameEnd (log : Option Location) (host other : Host) : Prop where
  files : SameBesides log host.files other.files
  launches : host.launches = other.launches
  isLog : host.logLocation? = log
  otherLog : other.logLocation? = log

namespace Host

variable {frame host other after otherAfter : Host} {log : Option Location}

theorem Alike.sameEnd (alike : frame.Alike host other) : SameEnd frame.logLocation? host other := by
  cases alike with
  | intro emissions otherEmissions alike => exact ⟨alike.sameBesides, rfl, rfl, rfl⟩

theorem LogsOnly.launches (logged : host.LogsOnly after) : after.launches = host.launches :=
  logged.setting.launches

theorem SameEnd.symm (same : SameEnd log host other) : SameEnd log other host :=
  ⟨fun location off => (same.files location off).symm, same.launches.symm, same.otherLog, same.isLog⟩

/-- Logging makes no difference between ends. -/
theorem SameEnd.logged (same : SameEnd log host other) (logs : host.LogsOnly after)
    (otherLogs : other.LogsOnly otherAfter) : SameEnd log after otherAfter where
  files location off := by
    rw [otherLogs.elsewhere location (same.otherLog ▸ off), same.files location off,
      logs.elsewhere location (same.isLog ▸ off)]
  launches := by rw [logs.launches, otherLogs.launches, same.launches]
  isLog := by rw [logs.setting.logLocation?, same.isLog]
  otherLog := by rw [otherLogs.setting.logLocation?, same.otherLog]

end Host

namespace Action

variable {ε α : Type}

/-- An action does nothing but log, and gives the same on every host. -/
def Tells (action : Action ε α) (result : Except ε α) : Prop :=
  ∀ host, (action.on host).1 = result ∧ host.LogsOnly (action.on host).2

theorem tells_pure (value : α) : Tells (pure value : Action ε α) (.ok value) :=
  fun host => ⟨rfl, .refl host⟩

theorem tells_throw (error : ε) : Tells (throw error : Action ε α) (.error error) :=
  fun host => ⟨rfl, .refl host⟩

theorem Tells.ended {action : Action ε α} {result : Except ε α} (tells : Tells action result)
    (host : Host) : ∃ after, action.on host = (result, after) ∧ host.LogsOnly after :=
  ⟨_, Prod.ext (tells host).1 rfl, (tells host).2⟩

theorem Tells.logged {effect : Effect Unit} {action : Action ε α} {result : Except ε α}
    (logs : ∀ host : Host, host.LogsOnly (effect.run host).2) (tells : Tells action result) :
    Tells ((liftM effect : Action ε Unit) >>= fun _ => action) result :=
  fun host => ⟨(tells _).1, (logs host).trans (tells _).2⟩

end Action

namespace Build

open FfiBindings.Action Effect Host

variable {behaviour : Program.Behaviour} {project : Project} {directory : Path}
  {frame host other after : Host} {log : Option Location}

/-- What a build does before it starts the toolchain. -/
def prepare (project : Project) : Action ProjectError Path := do
  let program ← resolveToolchain.orElseThrow .toolchain
  (Host.makeDirectories project.libraryDirectory).orElseThrow
    (.noDirectory project.libraryDirectory)
  Log.write (.debug ("Running " ++ program.display ++ " " ++
    Text.join " " (Plan.ofProject project Target.host).arguments))
  Log.write (.spinnerStart ("Building " ++ project.service ++ " for " ++ Target.host.system ++ "-" ++
    Target.host.architecture))
  return program

/-- Start the toolchain for a build. -/
def start (behaviour : Program.Behaviour) (program : Path) (project : Project) (directory : Path) :
    Action Fault Program.Outcome :=
  Program.launch behaviour program
    ((Plan.ofProject project Target.host).arguments.map Utf8.encode) directory

/-- What a build does when the toolchain has ended, or could not be started. -/
def conclude (program : Path) (plan : Plan) :
    Except Fault Program.Outcome → Action ProjectError Plan
  | .error fault => do
      Log.write (.spinnerError ("Failed to run " ++ program.display))
      throw (.io fault)
  | .ok outcome => do
      Log.write (.commandOutput "go build" outcome.exit outcome.output outcome.errors)
      if outcome.exit == some 0 then
        Log.write (.spinnerSuccess ("Built " ++ plan.library.display))
        return plan
      reportFailure outcome.errors
      throw (.buildFailed outcome.exit)

/-- A build prepares, starts the toolchain and concludes. -/
theorem build_eq (behaviour : Program.Behaviour) (project : Project) (directory : Path) :
    build behaviour project directory =
      prepare project >>= fun program =>
        (liftM (start behaviour program project directory).run : Action ProjectError _) >>=
          conclude program (Plan.ofProject project Target.host) := by
  unfold build prepare
  simp only [bind_assoc, pure_bind]
  rfl

/-- Preparing a build is steady. -/
theorem steady_prepare : (prepare project).Steady frame :=
  (steady_resolveToolchain.orElseThrow _).bind fun program =>
    ((steady_makeDirectories _).orElseThrow _).bind fun _ =>
      Steady.after (steady_write _) <| Steady.after (steady_write _) (steady_pure program)

theorem logsOnly_reportFailure (errors : Bytes) (host : Host) :
    host.LogsOnly ((reportFailure errors).run host).2 := by
  have logged := logsOnly_write (.spinnerError "go build failed") host
  unfold reportFailure
  rw [StateT.run_bind]
  generalize ((Log.write (.spinnerError "go build failed")).run host) = between at logged ⊢
  dsimp only
  split
  · exact logged.trans (.emit _ _)
  · exact logged

/-- What a build gives after the toolchain has ended. -/
def verdict (project : Project) (exit : Log.ExitCode) : Except ProjectError Plan :=
  if exit == some 0 then .ok (Plan.ofProject project Target.host) else .error (.buildFailed exit)

/-- A build concludes with the failure to start, or with the verdict on how the toolchain has ended. -/
theorem conclude_gives (program : Path) (project : Project) (ended : Except Fault Program.Outcome) :
    Tells (conclude program (Plan.ofProject project Target.host) ended)
      (match ended with
      | .error fault => .error (.io fault)
      | .ok outcome => verdict project outcome.exit) := by
  cases ended with
  | error fault => exact Tells.logged (logsOnly_write _) (tells_throw _)
  | ok outcome =>
    unfold conclude verdict
    dsimp only
    split
    · exact Tells.logged (logsOnly_write _) <|
        Tells.logged (logsOnly_write _) (tells_pure _)
    · exact Tells.logged (logsOnly_write _) <|
        Tells.logged (logsOnly_reportFailure _) (tells_throw _)

/-- Where a build that could be prepared goes on. -/
theorem build_on_of_prepared {program : Path} {ready : Host}
    (prepared : (prepare project).on host = (.ok program, ready)) :
    (build behaviour project directory).on host =
      (conclude program (Plan.ofProject project Target.host)
          ((start behaviour program project directory).on ready).1).on
        ((start behaviour program project directory).on ready).2 := by
  rw [build_eq, on_bind_of_ok prepared, on_lift_bind]
  rfl

/-- Builds on alike hosts end in the same way. -/
theorem build_agrees (alike : frame.Alike host other)
    (ignores : Program.IgnoresLog behaviour frame.logLocation?) :
    ((build behaviour project directory).on host).1 =
        ((build behaviour project directory).on other).1 ∧
      SameEnd frame.logLocation? ((build behaviour project directory).on host).2
        ((build behaviour project directory).on other).2 := by
  have preparing : (prepare project).Steady frame := steady_prepare
  obtain ⟨sameResult, still⟩ := preparing alike
  rcases prepared : (prepare project).on host with ⟨result, ready⟩
  rcases otherPrepared : (prepare project).on other with ⟨otherResult, otherReady⟩
  rw [prepared, otherPrepared] at sameResult still
  obtain rfl : result = otherResult := sameResult
  cases result with
  | error error =>
    rw [build_eq, on_bind_of_error prepared, on_bind_of_error otherPrepared]
    exact ⟨rfl, still.sameEnd⟩
  | ok program =>
    rw [build_on_of_prepared prepared, build_on_of_prepared otherPrepared]
    unfold start
    rw [Program.launch_on, Program.launch_on, invocation_alike still]
    cases Program.invocation otherReady program _ directory with
    | error fault =>
      have tells := conclude_gives program project (.error fault)
      exact ⟨(tells ready).1.trans (tells otherReady).1.symm,
        still.sameEnd.logged (tells ready).2 (tells otherReady).2⟩
    | ok started =>
      obtain ⟨files, launches, isLog, otherLog⟩ := still.sameEnd
      obtain ⟨sameOutcome, sameFiles⟩ := ignores started _ _ files
      have tells := conclude_gives program project (.ok (behaviour started ready.files).1)
      dsimp only
      rw [← sameOutcome]
      refine ⟨(tells _).1.trans (tells _).1.symm, SameEnd.logged ?_ (tells _).2 (tells _).2⟩
      exact ⟨sameFiles, by rw [launches], isLog, otherLog⟩

end Build

end FfiBindings
