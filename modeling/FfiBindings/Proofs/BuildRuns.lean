import FfiBindings.Proofs.Building

/-!
# Runs of a build

How far a build gets decides what it gives and what it leaves. It looks for the toolchain first, then
makes the directory of the library, and then starts the toolchain, once at most. The relation here has
one rule for each way a build can end, and says of each what was done. So all that a build does to files,
but for making that directory, is what the toolchain does.
-/

namespace FfiBindings.Build

open FileSystem FfiBindings.Action

/-- The program that finding the toolchain gives. -/
def toolchain (host : Host) : Except ToolchainError Path :=
  match host.environmentValue? toolchainVariable with
  | some named => if host.isFile ⟨named⟩ then .ok ⟨named⟩ else .error (.missingOverride ⟨named⟩)
  | none =>
      match searchToolchain host with
      | some path => .ok path
      | none => .error .notOnSearchPath

/-- Finding the toolchain changes nothing. -/
theorem resolveToolchain_on (host : Host) :
    ∃ emissions, resolveToolchain.on host = (toolchain host, { host with emissions }) := by
  unfold resolveToolchain toolchain
  rw [on_get_bind]
  cases host.environmentValue? toolchainVariable with
  | some named =>
    dsimp only
    rw [on_lift_bind]
    split <;> exact ⟨_, rfl⟩
  | none => cases searchToolchain host <;> exact ⟨_, rfl⟩

/-- The arguments that a build starts the toolchain with. -/
def arguments (project : Project) : List Bytes :=
  (Plan.ofProject project Target.host).arguments.map Utf8.encode

/-- What a build that starts the toolchain has done before: the toolchain was found, and the directory of
the library was made. -/
structure Prepared (project : Project) (host : Host) (program : Path) (ready : Host) : Prop where
  found : toolchain host = .ok program
  made : ∃ emissions files,
    host.files.makeDirectories host.directory project.libraryDirectory = (files, .ok ()) ∧
      Host.LogsOnly { host with files, emissions } ready

/-- The runs of a build. -/
inductive Builds (behaviour : Program.Behaviour) (project : Project) (directory : Path) (host : Host) :
    Except ProjectError Plan → Host → Prop where
  | noToolchain {error : ToolchainError} {emissions : List Emission}
      (missing : toolchain host = .error error) :
      Builds behaviour project directory host (.error (.toolchain error)) { host with emissions }
  | noDirectory {program : Path} {files : FileSystem} {fault : Fault} {emissions : List Emission}
      (found : toolchain host = .ok program)
      (failed : host.files.makeDirectories host.directory project.libraryDirectory =
        (files, .error fault)) :
      Builds behaviour project directory host
        (.error (.noDirectory project.libraryDirectory fault)) { host with files, emissions }
  | unstarted {program : Path} {fault : Fault} {ready after : Host}
      (prepared : Prepared project host program ready)
      (failed : Program.invocation ready program (arguments project) directory = .error fault)
      (closing : ready.LogsOnly after) :
      Builds behaviour project directory host (.error (.io fault)) after
  | ended {program : Path} {started : Invocation} {ready after : Host}
      (prepared : Prepared project host program ready)
      (begun : Program.invocation ready program (arguments project) directory = .ok started)
      (closing : Host.LogsOnly { ready with
        files := (behaviour started ready.files).2
        launches := ready.launches ++ [started] } after) :
      Builds behaviour project directory host
        (verdict project (behaviour started ready.files).1.exit) after

variable {behaviour : Program.Behaviour} {project : Project} {directory : Path}
  {host other ready after : Host} {log : Option Location}

/-- A build is prepared where the toolchain is found and the directory of the library is made. -/
theorem prepare_on_of_made {program : Path} {files : FileSystem}
    (found : toolchain host = .ok program)
    (made : host.files.makeDirectories host.directory project.libraryDirectory = (files, .ok ())) :
    ∃ ready, (prepare project).on host = (.ok program, ready) ∧
      Prepared project host program ready := by
  obtain ⟨emissions, resolving⟩ := resolveToolchain_on host
  rw [found] at resolving
  have making : (Host.makeDirectories project.libraryDirectory).on { host with emissions } =
      (.ok (), { host with files, emissions }) := Host.makeDirectories_on_of_ok made
  unfold prepare
  rw [on_bind_of_ok (on_orElseThrow_of_ok resolving _), on_bind_of_ok (on_orElseThrow_of_ok making _)]
  have tells (first second : Log.Message) :
      Tells (do Log.write first; Log.write second; return program : Action ProjectError Path)
        (.ok program) :=
    Tells.logged (Host.logsOnly_write first)
      (Tells.logged (Host.logsOnly_write second) (tells_pure program))
  exact (Tells.ended (tells _ _) _).imp fun ready ended =>
    ⟨ended.1, found, emissions, files, made, ended.2⟩

/-- A build that was prepared ends as the toolchain does, or for the reason that it could not be
started. -/
theorem builds_of_prepared {program : Path} (isPrepared : Prepared project host program ready)
    (prepared : (prepare project).on host = (.ok program, ready)) :
    Builds behaviour project directory host ((build behaviour project directory).on host).1
      ((build behaviour project directory).on host).2 := by
  rw [build_on_of_prepared prepared, start, ← arguments, Program.launch_on]
  cases begun : Program.invocation ready program (arguments project) directory with
  | error fault =>
    obtain ⟨gives, logs⟩ := conclude_gives program project (.error fault) ready
    rw [gives]
    exact .unstarted isPrepared begun logs
  | ok started =>
    obtain ⟨gives, logs⟩ := conclude_gives program project (.ok (behaviour started ready.files).1)
      { ready with
        files := (behaviour started ready.files).2
        launches := ready.launches ++ [started] }
    rw [gives]
    exact .ended isPrepared begun logs

/-- Every run of a build is one of these. -/
theorem builds (behaviour : Program.Behaviour) (project : Project) (directory : Path) (host : Host) :
    Builds behaviour project directory host ((build behaviour project directory).on host).1
      ((build behaviour project directory).on host).2 := by
  obtain ⟨emissions, resolving⟩ := resolveToolchain_on host
  cases found : toolchain host with
  | error error =>
    rw [found] at resolving
    have failed : (prepare project).on host = (.error (.toolchain error), { host with emissions }) := by
      unfold prepare
      rw [on_bind_of_error (on_orElseThrow_of_error resolving _)]
    rw [build_eq, on_bind_of_error failed]
    exact .noToolchain found
  | ok program =>
    rw [found] at resolving
    rcases made : host.files.makeDirectories host.directory project.libraryDirectory with
      ⟨files, fault | done⟩
    · have making : (Host.makeDirectories project.libraryDirectory).on { host with emissions } =
          (.error fault, { host with files, emissions }) := Host.makeDirectories_on_of_error made
      have failed : (prepare project).on host =
          (.error (.noDirectory project.libraryDirectory fault), { host with files, emissions }) := by
        unfold prepare
        rw [on_bind_of_ok (on_orElseThrow_of_ok resolving _),
          on_bind_of_error (on_orElseThrow_of_error making _)]
      rw [build_eq, on_bind_of_error failed]
      exact .noDirectory found made
    · obtain ⟨ready, prepared, isPrepared⟩ := prepare_on_of_made found made
      exact builds_of_prepared isPrepared prepared

/-- What a program leaves, when it is started at all: before it starts the files are as they were, and
afterwards they are as it leaves them. The log is left out of account. -/
inductive Leaves (behaviour : Program.Behaviour) (host after : Host) : Prop where
  | notStarted (launches : after.launches = host.launches)
      (files : SameBesides host.logLocation? host.files after.files)
  | started {invocation : Invocation} {files : FileSystem}
      (launches : after.launches = host.launches ++ [invocation])
      (before : SameBesides host.logLocation? host.files files)
      (afterwards : SameBesides host.logLocation? (behaviour invocation files).2 after.files)

/-- The same is left behind an end that is the same. -/
theorem Leaves.of_sameEnd (same : Host.SameEnd log other host) (leaves : Leaves behaviour host after) :
    Leaves behaviour other after := by
  obtain ⟨files, launches, rfl, isLog⟩ := same
  cases leaves with
  | notStarted sameLaunches unchanged =>
    refine .notStarted (sameLaunches.trans launches.symm) fun location off => ?_
    rw [unchanged location (isLog ▸ off), files location off]
  | @started invocation started launched before afterwards =>
    rw [← launches] at launched
    refine .started launched (fun location off => ?_) (isLog ▸ afterwards)
    rw [before location (isLog ▸ off), files location off]

/-- Where the directory of the library is there, a build only logs before it starts the toolchain. -/
theorem Prepared.logsOnly {program : Path} (prepared : Prepared project host program ready)
    (settled : host.files.Settled host.directory project.libraryDirectory) : host.LogsOnly ready := by
  obtain ⟨-, emissions, files, made, logs⟩ := prepared
  rw [makeDirectories_of_settled settled] at made
  obtain ⟨rfl, -⟩ := Prod.mk.inj made
  exact (Host.LogsOnly.emit host emissions).trans logs

/-- A build leaves all files as they were, apart from what the toolchain does and what is logged
meanwhile or afterwards. -/
theorem build_leaves (settled : host.files.Settled host.directory project.libraryDirectory)
    (later : ((build behaviour project directory).on host).2.LogsOnly after) :
    Leaves behaviour host after := by
  have ran := builds behaviour project directory host
  generalize ((build behaviour project directory).on host).1 = result at ran
  generalize ((build behaviour project directory).on host).2 = left at ran later
  cases ran with
  | @noToolchain error emissions missing =>
    have ended := (Host.LogsOnly.emit host emissions).trans later
    exact .notStarted ended.launches ended.elsewhere
  | noDirectory found failed =>
    rw [makeDirectories_of_settled settled] at failed
    simp at failed
  | unstarted prepared failed closing =>
    have ended := ((prepared.logsOnly settled).trans closing).trans later
    exact .notStarted ended.launches ended.elsewhere
  | @ended program started ready after prepared begun closing =>
    have logged := prepared.logsOnly settled
    have ended := closing.trans later
    have isLog : Host.logLocation? { ready with
        files := (behaviour started ready.files).2
        launches := ready.launches ++ [started] } = host.logLocation? :=
      logged.setting.logLocation?
    refine .started ?_ logged.elsewhere (isLog ▸ ended.elsewhere)
    rw [ended.launches, logged.launches]

end FfiBindings.Build
