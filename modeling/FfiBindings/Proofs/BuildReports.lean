import FfiBindings.Proofs.BuildRuns
import FfiBindings.Proofs.Regeneration

/-!
# What a build reports

A build can fail at three points, which come in order. Without a toolchain it has done nothing. Where
the directory of the library cannot be made, some directories above it may be new, and no file is
different. Behind that the toolchain is started, if it can be started at all, and the build reports how
that went: a plan for exit code 0 and no other end, any other end as it was, and the failure to start
as the one thing that is no end. The three reports exclude each other, so each of them tells what
happened. After the toolchain the build only logs.
-/

namespace FfiBindings.Build

open FileSystem FfiBindings.Action

variable {behaviour : Program.Behaviour} {project : Project} {directory program : Path}
  {host ready after : Host} {result : Except ProjectError Plan}

/-- A host on which a build is about to start the toolchain. The files are those with the directory of the
library made; the log may be different, and more may have been put out. -/
structure Ready (project : Project) (host ready : Host) : Prop where
  setting : Host.SameSetting host ready
  files : SameBesides host.logLocation?
    (host.files.makeDirectories host.directory project.libraryDirectory).1 ready.files

/-- A build reports what has become of the toolchain that it was about to start: whether it could be
started, and then with which code it has exited, or that it has ended without one. Afterwards nothing is
different from what the toolchain left but for the log. -/
structure Reports (behaviour : Program.Behaviour) (project : Project) (directory program : Path)
    (ready after : Host) (result : Except ProjectError Plan) : Prop where
  planned : ∀ plan, result = .ok plan ↔ plan = Plan.ofProject project Target.host ∧
    ∃ started, Program.invocation ready program (arguments project) directory = .ok started ∧
      (behaviour started ready.files).1.exit = some 0
  failed : ∀ exit, result = .error (.buildFailed exit) ↔ exit ≠ some 0 ∧
    ∃ started, Program.invocation ready program (arguments project) directory = .ok started ∧
      (behaviour started ready.files).1.exit = exit
  refused : ∀ fault, result = .error (.io fault) ↔
    Program.invocation ready program (arguments project) directory = .error fault
  unstarted : ∀ fault,
    Program.invocation ready program (arguments project) directory = .error fault →
      ready.LogsOnly after
  started : ∀ started,
    Program.invocation ready program (arguments project) directory = .ok started →
      Host.LogsOnly { ready with
        files := (behaviour started ready.files).2
        launches := ready.launches ++ [started] } after

theorem ready_of_prepared (prepared : Prepared project host program ready) :
    Ready project host ready := by
  obtain ⟨-, emissions, files, made, logs⟩ := prepared
  refine ⟨?_, ?_⟩
  · have emitted : Host.SameSetting host { host with files, emissions } := rfl
    exact emitted.trans logs.setting
  · rw [made]
    exact logs.elsewhere

/-- The plan is given for exit code 0, and only then. -/
theorem verdict_eq_ok_iff {exit : Log.ExitCode} {plan : Plan} :
    verdict project exit = .ok plan ↔ plan = Plan.ofProject project Target.host ∧ exit = some 0 := by
  unfold verdict
  by_cases succeeded : exit = some 0
  · simp [succeeded, eq_comm]
  · simp [succeeded]

/-- Any other end is reported as it is. -/
theorem verdict_eq_failed_iff {exit reported : Log.ExitCode} :
    verdict project exit = .error (.buildFailed reported) ↔ reported ≠ some 0 ∧ exit = reported := by
  unfold verdict
  by_cases succeeded : exit = some 0
  · simp [succeeded, eq_comm]
  · simp only [succeeded, beq_iff_eq, if_false, Except.error.injEq, ProjectError.buildFailed.injEq]
    constructor
    · rintro rfl
      exact ⟨succeeded, rfl⟩
    · exact And.right

theorem verdict_ne_io (exit : Log.ExitCode) (fault : Fault) :
    verdict project exit ≠ .error (.io fault) := by
  unfold verdict
  split <;> simp

/-- Where the toolchain could not be started, that is what a build reports. -/
theorem reports_of_refused {fault : Fault}
    (refused : Program.invocation ready program (arguments project) directory = .error fault)
    (logs : ready.LogsOnly after) :
    Reports behaviour project directory program ready after (.error (.io fault)) where
  planned plan := by simp [refused]
  failed exit := by simp [refused]
  refused other := by simp [refused]
  unstarted _ _ := logs
  started _ begun := by simp [refused] at begun

/-- Where the toolchain was started, a build reports the verdict on its end. -/
theorem reports_of_started {started : Invocation}
    (begun : Program.invocation ready program (arguments project) directory = .ok started)
    (logs : Host.LogsOnly { ready with
      files := (behaviour started ready.files).2
      launches := ready.launches ++ [started] } after) :
    Reports behaviour project directory program ready after
      (verdict project (behaviour started ready.files).1.exit) where
  planned plan := by simp [begun, verdict_eq_ok_iff]
  failed exit := by simp [begun, verdict_eq_failed_iff]
  refused fault := by simp [begun, verdict_ne_io]
  unstarted _ refused := by simp [begun] at refused
  started other same := by
    obtain rfl := Except.ok.inj (begun.symm.trans same)
    exact logs

/-- Without a toolchain nothing is done. -/
theorem Builds.of_missing (run : Builds behaviour project directory host result after)
    {error : ToolchainError} (missing : toolchain host = .error error) :
    result = .error (.toolchain error) ∧ after.launches = host.launches ∧
      after.files = host.files := by
  cases run with
  | noToolchain same =>
    obtain rfl := Except.error.inj (same.symm.trans missing)
    exact ⟨rfl, rfl, rfl⟩
  | noDirectory found => simp [found] at missing
  | unstarted prepared => simp [prepared.found] at missing
  | ended prepared => simp [prepared.found] at missing

/-- Where the directory of the library cannot be made, no more is done than making some above it. -/
theorem Builds.of_failed (run : Builds behaviour project directory host result after) {fault : Fault}
    (found : toolchain host = .ok program)
    (failed : (host.files.makeDirectories host.directory project.libraryDirectory).2 =
      .error fault) :
    result = .error (.noDirectory project.libraryDirectory fault) ∧
      after.launches = host.launches ∧
      ∀ location, after.files.fileAt? location = host.files.fileAt? location := by
  cases run with
  | noToolchain missing => simp [missing] at found
  | noDirectory _ ended =>
    have made := (makeDirectories_changes host.files host.directory project.libraryDirectory).1
    rw [ended] at failed made
    obtain rfl := Except.error.inj failed
    exact ⟨rfl, rfl, fun location => (made location).fileAt?_eq⟩
  | unstarted prepared =>
    obtain ⟨-, _, _, made, -⟩ := prepared
    simp [made] at failed
  | ended prepared =>
    obtain ⟨-, _, _, made, -⟩ := prepared
    simp [made] at failed

/-- A build that was prepared reports on the toolchain. -/
theorem Builds.reports (run : Builds behaviour project directory host result after)
    (found : toolchain host = .ok program)
    (made : (host.files.makeDirectories host.directory project.libraryDirectory).2 = .ok ()) :
    ∃ ready, Ready project host ready ∧
      Reports behaviour project directory program ready after result := by
  cases run with
  | noToolchain missing =>
    rw [found] at missing
    contradiction
  | noDirectory _ failed =>
    rw [failed] at made
    contradiction
  | unstarted prepared refused closing =>
    obtain rfl := Except.ok.inj (prepared.found.symm.trans found)
    exact ⟨_, ready_of_prepared prepared, reports_of_refused refused closing⟩
  | ended prepared begun closing =>
    obtain rfl := Except.ok.inj (prepared.found.symm.trans found)
    exact ⟨_, ready_of_prepared prepared, reports_of_started begun closing⟩

/-- A build starts at most one program. -/
theorem Builds.launches (run : Builds behaviour project directory host result after) :
    after.launches = host.launches ∨
      ∃ started, after.launches = host.launches ++ [started] := by
  cases run with
  | noToolchain => exact .inl rfl
  | noDirectory => exact .inl rfl
  | unstarted prepared _ closing =>
    exact .inl (closing.launches.trans (ready_of_prepared prepared).setting.launches)
  | @ended _ started _ _ prepared _ closing =>
    exact .inr ⟨started, by rw [closing.launches, (ready_of_prepared prepared).setting.launches]⟩

/-- A build tells what it has done, and has done no more than it tells. It starts one program at most.
If there is no toolchain it says so and has changed nothing; if the directory of the library cannot be
made it says so, has started nothing, and every regular file is as it was. Otherwise it has come to start
the toolchain, on a host that differs from the first one by the directories made and by its log, and
reports how that went. -/
structure Faithful (behaviour : Program.Behaviour) (project : Project) (directory : Path)
    (host after : Host) (result : Except ProjectError Plan) : Prop where
  once : after.launches = host.launches ∨ ∃ started, after.launches = host.launches ++ [started]
  noToolchain : ∀ error, (resolveToolchain.on host).1 = .error error →
    result = .error (.toolchain error) ∧ after.launches = host.launches ∧ after.files = host.files
  noDirectory : ∀ program fault, (resolveToolchain.on host).1 = .ok program →
    ((Host.makeDirectories project.libraryDirectory).on host).1 = .error fault →
      result = .error (.noDirectory project.libraryDirectory fault) ∧
        after.launches = host.launches ∧
        ∀ location, after.files.fileAt? location = host.files.fileAt? location
  reports : ∀ program, (resolveToolchain.on host).1 = .ok program →
    ((Host.makeDirectories project.libraryDirectory).on host).1 = .ok () →
      ∃ ready, Ready project host ready ∧
        Reports behaviour project directory program ready after result

/-- Every build is faithful, whatever the toolchain does. -/
theorem build_faithful (behaviour : Program.Behaviour) (project : Project) (directory : Path)
    (host : Host) :
    Faithful behaviour project directory host ((build behaviour project directory).on host).2
      ((build behaviour project directory).on host).1 := by
  have run := builds behaviour project directory host
  generalize ((build behaviour project directory).on host).1 = result at run ⊢
  generalize ((build behaviour project directory).on host).2 = after at run ⊢
  obtain ⟨emissions, resolving⟩ := resolveToolchain_on host
  constructor
  case once => exact run.launches
  case noToolchain =>
    intro error missing
    rw [resolving] at missing
    exact run.of_missing missing
  case noDirectory =>
    intro program fault found failed
    rw [resolving] at found
    rw [Host.makeDirectories_on] at failed
    exact run.of_failed found failed
  case reports =>
    intro program found made
    rw [resolving] at found
    rw [Host.makeDirectories_on] at made
    exact run.reports found made

/-- A toolchain that does nothing but end. -/
def ending (exit : Log.ExitCode) : Program.Behaviour := fun _ files => (⟨exit, [], []⟩, files)

/-- The host of the adder with a toolchain that its environment names. -/
def equippedHost : Host :=
  { Command.adderHost with
    files := ⟨Command.adderHost.files.entries ++
      [([Utf8.encode "go"], .file (0x7F :: Utf8.encode "ELF") true)]⟩
    environment := [("GOPHP_GO", Utf8.encode "/go")] }

/-- The same host with a file in the way of the library directory. -/
def barredHost : Host :=
  { equippedHost with
    files := ⟨equippedHost.files.entries ++ [([Utf8.encode "dist"], .file [] false)]⟩ }

/-- The law at every report of a build: a toolchain that exits with code 0, one that is killed and so has
no exit code, none at all, and no directory for the library. -/
theorem build_faithful_equipped :
    (((build (ending (some 0)) Command.adderProject (.ofText "/")).on equippedHost).1 =
        .ok (Plan.ofProject Command.adderProject Target.host) ∧
      ∃ ready started, Ready Command.adderProject equippedHost ready ∧
        Program.invocation ready (.ofText "/go") (arguments Command.adderProject) (.ofText "/") =
          .ok started) ∧
    (((build (ending none) Command.adderProject (.ofText "/")).on equippedHost).1 =
        .error (.buildFailed none) ∧
      ∃ ready started, Ready Command.adderProject equippedHost ready ∧
        Program.invocation ready (.ofText "/go") (arguments Command.adderProject) (.ofText "/") =
          .ok started) ∧
    (((build (ending none) Command.adderProject (.ofText "/")).on Command.adderHost).1 =
        .error (.toolchain .notOnSearchPath) ∧
      ((build (ending none) Command.adderProject (.ofText "/")).on Command.adderHost).2.files =
        Command.adderHost.files) ∧
    ((build (ending none) Command.adderProject (.ofText "/")).on barredHost).1 =
        .error (.noDirectory (.ofText "/dist/lib") .notDirectory) ∧
      ((build (ending none) Command.adderProject (.ofText "/")).on barredHost).2.launches = [] := by
  have named : (resolveToolchain.on equippedHost).1 = .ok (.ofText "/go") := by decide +kernel
  have made : ((Host.makeDirectories Command.adderProject.libraryDirectory).on equippedHost).1 =
      .ok () := by decide +kernel
  obtain ⟨ready, isReady, reports⟩ :=
    (build_faithful (ending (some 0)) Command.adderProject (.ofText "/") equippedHost).reports _ named made
  have succeeded : ((build (ending (some 0)) Command.adderProject (.ofText "/")).on equippedHost).1 =
      .ok (Plan.ofProject Command.adderProject Target.host) := by decide +kernel
  obtain ⟨-, started, begun, -⟩ := (reports.planned _).mp succeeded
  obtain ⟨readyToo, isReadyToo, reportsToo⟩ :=
    (build_faithful (ending none) Command.adderProject (.ofText "/") equippedHost).reports _ named made
  have killed : ((build (ending none) Command.adderProject (.ofText "/")).on equippedHost).1 =
      .error (.buildFailed none) := by decide +kernel
  obtain ⟨-, startedToo, begunToo, -⟩ := (reportsToo.failed _).mp killed
  obtain ⟨missing, -, untouched⟩ :=
    (build_faithful (ending none) Command.adderProject (.ofText "/") Command.adderHost).noToolchain
      .notOnSearchPath (by decide +kernel)
  obtain ⟨refused, unstarted, -⟩ :=
    (build_faithful (ending none) Command.adderProject (.ofText "/") barredHost).noDirectory
      (.ofText "/go") .notDirectory (by decide +kernel) (by decide +kernel)
  exact ⟨⟨succeeded, ready, started, isReady, begun⟩,
    ⟨killed, readyToo, startedToo, isReadyToo, begunToo⟩, ⟨missing, untouched⟩, refused, unstarted⟩

end FfiBindings.Build
