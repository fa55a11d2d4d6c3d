import FfiBindings.Proofs.Launching
import FfiBindings.Proofs.Making

/-!
# The toolchain that the environment names

Where the environment names the toolchain, the file that the name leads to is checked before anything is
started. What is started then is found anew, by the rules for programs: a name with a slash leads to the
file that was checked, but a bare name is looked for on the search path. There it is the file that was
checked only if the search path leads to the working directory, and no earlier entry of it has a program
of that name.
-/

namespace FfiBindings

open FileSystem

namespace Host

variable {host after : Host} {path : Path}

theorem isFile_iff :
    host.isFile path = true ↔
      host.files.locate host.directory path = .ok (destination host.directory path) ∧
        host.files.kindAt? (destination host.directory path) = some false := by
  unfold isFile follow? FileSystem.follow?
  cases located : host.files.locate host.directory path with
  | error fault => simp
  | ok place =>
    obtain rfl := locate_eq_destination located
    rw [kindAt?_eq_false_iff]
    dsimp only
    split
    · next found => simp [found]
    · next other => simpa using other

/-- The working directory stays where it is while nothing is lost. -/
theorem Rooted.grown (rooted : host.Rooted) (setting : host.SameSetting after)
    (grown : Grows host.files after.files) : after.Rooted where
  names := by
    rw [setting.directory]
    exact rooted.names
  above above isAbove := by
    rw [setting.directory] at isAbove
    exact grown.directory (rooted.above above isAbove)

/-- A file that a text without a slash leads to is an entry of the working directory. -/
theorem Rooted.isName_of_isFile {named : Bytes} (rooted : host.Rooted) (bare : Path.slash ∉ named)
    (isFile : host.isFile ⟨named⟩ = true) : isName named = true := by
  obtain ⟨located, kind⟩ := isFile_iff.mp isFile
  have notDirectory (place : Location) (isAbove : place <:+ host.directory)
      (same : destination host.directory ⟨named⟩ = place) : False := by
    rw [same, kindAt?_eq_true_iff.mpr (rooted.above place isAbove)] at kind
    contradiction
  refine Path.isName_iff.mpr ⟨?_, ?_, ?_, bare⟩
  · rintro rfl
    have accepted := (locate_eq_ok_iff.mp located).1
    contradiction
  · rintro rfl
    exact notDirectory _ List.suffix_rfl rfl
  · rintro rfl
    exact notDirectory _ (List.tail_suffix _) rfl

end Host

namespace Build

/-- What is known of a launch where the environment names the toolchain by `named`: the name leads to a
regular file. A name with a slash is that of the file that is started. Of a bare name the first file on
the search path is started. -/
structure StartsNamed (host : Host) (named : Bytes) (files : FileSystem) (invocation : Invocation) :
    Prop where
  directory : invocation.directory = host.directory
  located : files.locate host.directory ⟨named⟩ = .ok (destination host.directory ⟨named⟩)
  isFile : files.kindAt? (destination host.directory ⟨named⟩) = some false
  byPath : Path.slash ∈ named → invocation.file = destination host.directory ⟨named⟩
  byName : Path.slash ∉ named → ∃ entry,
    Program.FirstBy files host.directory ⟨named⟩
        (Program.searchEntries ((host.environmentValue? "PATH").getD Program.defaultSearchPath))
        entry invocation.file ∧
      (invocation.file = destination host.directory ⟨named⟩ ↔
        destination host.directory entry = host.directory)

/-- What a command starts that uses the toolchain: nothing, or the toolchain that the environment names,
once. After that the files are as the toolchain leaves them, apart from the log. -/
inductive StartsOnly (behaviour : Program.Behaviour) (named : Bytes) (host after : Host) : Prop where
  | nothing (launches : after.launches = host.launches)
  | once {invocation : Invocation} {files : FileSystem}
      (launches : after.launches = host.launches ++ [invocation])
      (starts : StartsNamed host named files invocation)
      (left : SameBesides host.logLocation? (behaviour invocation files).2 after.files)

variable {behaviour : Program.Behaviour} {project : Project} {named : Bytes}
  {host ready after : Host}

/-- The same is started from hosts with the same settings. -/
theorem StartsOnly.of_setting (setting : host.SameSetting ready)
    (starts : StartsOnly behaviour named ready after) : StartsOnly behaviour named host after := by
  have directory := setting.directory
  have environment := setting.environmentValue? "PATH"
  cases starts with
  | nothing launches => exact .nothing (launches.trans setting.launches)
  | once launches starts left =>
    obtain ⟨inside, located, isFile, byPath, byName⟩ := starts
    rw [directory] at inside located isFile byPath
    rw [directory, environment] at byName
    rw [setting.launches] at launches
    rw [setting.logLocation?] at left
    exact .once launches ⟨inside, located, isFile, byPath, byName⟩ left

theorem toolchain_of_named (isNamed : host.environmentValue? toolchainVariable = some named)
    {program : Path} (found : toolchain host = .ok program) :
    program = ⟨named⟩ ∧ host.isFile ⟨named⟩ = true := by
  unfold toolchain at found
  rw [isNamed] at found
  dsimp only at found
  split at found
  · next isFile => exact ⟨(Except.ok.inj found).symm, isFile⟩
  · contradiction

/-- Preparing a build loses nothing and changes no setting. -/
theorem Prepared.grows {program : Path} (prepared : Prepared project host program ready) :
    host.SameSetting ready ∧ Grows host.files ready.files := by
  obtain ⟨-, emissions, files, made, logs⟩ := prepared
  have makes := (makeDirectories_changes host.files host.directory project.libraryDirectory).1.grows
  rw [made] at makes
  have making : host.SameSetting { host with files, emissions } := rfl
  exact ⟨making.trans logs.setting, makes.trans logs.grown⟩

/-- A launch by a build that was prepared. -/
theorem startsNamed_of_prepared (rooted : host.Rooted)
    (isNamed : host.environmentValue? toolchainVariable = some named) {program : Path}
    (prepared : Prepared project host program ready) {started : Invocation}
    (begun : Program.invocation ready program (arguments project) host.workingPath = .ok started) :
    StartsNamed host named ready.files started := by
  obtain ⟨setting, grown⟩ := prepared.grows
  obtain ⟨rfl, isFile⟩ := toolchain_of_named isNamed prepared.found
  obtain ⟨located, kind⟩ := Host.isFile_iff.mp isFile
  obtain ⟨-, -, inside, -, found⟩ := Program.invocation_inv begun
  rw [Host.destination_workingPath rooted.names] at inside
  rw [inside, setting.environmentValue?] at found
  obtain ⟨byPath, byName⟩ := Program.lookUp_inv found
  refine ⟨inside, grown.locate located, grown _ _ kind, byPath, fun bare => ?_⟩
  obtain ⟨entry, first⟩ := byName bare
  exact ⟨entry, first, first.here_iff (rooted.isName_of_isFile bare isFile)⟩

/-- A build starts the toolchain that the environment names, or nothing. -/
theorem Builds.startsOnly (rooted : host.Rooted)
    (isNamed : host.environmentValue? toolchainVariable = some named)
    {result : Except ProjectError Plan} {ended : Host}
    (ran : Builds behaviour project host.workingPath host result ended)
    (later : ended.LogsOnly after) : StartsOnly behaviour named host after := by
  cases ran with
  | noToolchain missing => exact .nothing later.launches
  | noDirectory found failed => exact .nothing later.launches
  | unstarted prepared failed closing =>
    exact .nothing ((closing.trans later).launches.trans prepared.grows.1.launches)
  | @ended program started ready _ prepared begun closing =>
    have setting := prepared.grows.1
    have logged := closing.trans later
    have isLog : Host.logLocation? { ready with
        files := (behaviour started ready.files).2
        launches := ready.launches ++ [started] } = host.logLocation? := setting.logLocation?
    refine .once ?_ (startsNamed_of_prepared rooted isNamed prepared begun)
      (isLog ▸ logged.elsewhere)
    rw [logged.launches, setting.launches]

end Build

namespace Command

open Build FfiBindings.Action

variable {behaviour : Program.Behaviour} {source : Option Path} {named : Bytes} {host : Host}

/-- A building step starts the toolchain that the environment names, or nothing. -/
theorem building_startsOnly (rooted : host.Rooted)
    (isNamed : host.environmentValue? toolchainVariable = some named) (manner : Manner)
    {start : Path × Project} (home : start.1 = host.workingPath) :
    StartsOnly behaviour named host ((building manner behaviour start).on host).2 := by
  obtain ⟨emissions, -, logs⟩ := building_ends manner behaviour start host
  have told : host.SameSetting { host with emissions } := rfl
  have ran := builds behaviour start.2 start.1 { host with emissions }
  rw [home] at ran logs
  exact (ran.startsOnly (rooted.grown told (.refl _)) isNamed logs).of_setting told

/-- A generating step starts nothing, loses nothing and changes no setting. -/
theorem generating_grows (heading : Project → Text × Text) (label : Option Text) (project : Project)
    (host : Host) :
    host.SameSetting ((generating heading label project).on host).2 ∧
      Grows host.files ((generating heading label project).on host).2.files := by
  obtain ⟨emissions, here⟩ := generating_on heading label project host
  rw [here]
  obtain ⟨setting, grown⟩ := (generates project { host with emissions }).grows
  have told : host.SameSetting { host with emissions } := rfl
  rcases generated : (generate project).on { host with emissions } with ⟨error | value, between⟩
  · rw [on_bind_of_error (on_orElseThrow_of_error generated _)]
    rw [generated] at setting grown
    exact ⟨told.trans setting, grown⟩
  · rw [on_bind_of_ok (on_orElseThrow_of_ok generated _)]
    rw [generated] at setting grown
    have logs := (stamps_reportGenerated value between).1
    exact ⟨(told.trans setting).trans logs.setting, grown.trans logs.grown⟩

/-- A command starts what it starts after its beginning. -/
theorem startsOnly_of_opening (tree : host.files.isTree = true) (handling : Text)
    {next : Path × Project → Run Unit}
    (later : ∀ {ready : Host} {start : Path × Project}, host.SameSetting ready → ready.Rooted →
      start.1 = ready.workingPath → StartsOnly behaviour named ready ((next start).on ready).2) :
    StartsOnly behaviour named host ((opening handling source >>= next).on host).2 := by
  obtain ⟨emissions, beginning⟩ := opening_on handling source host
  have logs := Host.logsOnly_write (.debug handling) host
  generalize ((Log.write (.debug handling)).run host).2 = logged at beginning logs
  have told := logs.trans (.emit logged emissions)
  cases begins : opened logged source with
  | error failure =>
    rw [begins] at beginning
    rw [on_bind_of_error beginning]
    exact .nothing told.launches
  | ok start =>
    rw [begins] at beginning
    rw [on_bind_of_ok beginning]
    obtain ⟨found, -, home⟩ := opened_eq_ok_iff.mp begins
    rw [logs.setting.directory] at found
    have rooted := (Host.rooted_of_tree tree (logs.fixed _ found)).grown told.setting told.grown
    exact (later told.setting rooted home).of_setting told.setting

/-- A generating step before other things starts nothing of its own. -/
theorem startsOnly_of_generating (heading : Project → Text × Text) (label : Option Text)
    (project : Project) {next : Unit → Run Unit}
    (later : ∀ {ready : Host}, host.SameSetting ready → Grows host.files ready.files →
      StartsOnly behaviour named ready ((next ()).on ready).2) :
    StartsOnly behaviour named host ((generating heading label project >>= next).on host).2 := by
  obtain ⟨setting, grown⟩ := generating_grows heading label project host
  rcases generated : (generating heading label project).on host with ⟨failure | _, between⟩
  · rw [on_bind_of_error generated]
    rw [generated] at setting
    exact .nothing setting.launches
  · rw [on_bind_of_ok generated]
    rw [generated] at setting grown
    exact (later setting grown).of_setting setting

/-- A command that uses the toolchain starts nothing but the one that the environment names, and this
once at most. A name with a slash leads to the file that was checked, and that file is started. A bare
name was checked in the working directory; what is started is the first file of that name on the search
path, and it is the one that was checked exactly when the entry by which it is found leads to the working
directory. -/
theorem startsOnly_of_command (tree : host.files.isTree = true)
    (isNamed : host.environmentValue? toolchainVariable = some named) {command : Run Unit}
    (isCommand : command ∈ [runBuild behaviour source, runMake behaviour source]) :
    StartsOnly behaviour named host (command.on host).2 := by
  have named_of {ready : Host} (setting : host.SameSetting ready) :
      ready.environmentValue? toolchainVariable = some named :=
    (setting.environmentValue? toolchainVariable).trans isNamed
  rcases List.mem_pair.mp isCommand with rfl | rfl
  · rw [runBuild_eq]
    exact startsOnly_of_opening tree _ fun setting rooted home =>
      building_startsOnly rooted (named_of setting) onlyStep home
  · rw [runMake_eq]
    refine startsOnly_of_opening tree _ fun begun rooted home => ?_
    refine startsOnly_of_generating _ _ _ fun setting grown => ?_
    exact building_startsOnly (rooted.grown setting grown) (named_of (begun.trans setting)) secondStep
      (home.trans setting.workingPath.symm)

/-- The toolchain of the example is the file that is named. -/
theorem startsOnly_of_command_adder :
    ∃ invocation, ((runMake compiling none).on toolchainHost).2.launches = [invocation] ∧
      invocation.file = destination [] (.ofText "/bin/go") := by
  have starts : StartsOnly compiling (Utf8.encode "/bin/go") toolchainHost
      ((runMake compiling none).on toolchainHost).2 :=
    startsOnly_of_command (by decide +kernel) rfl (List.mem_pair.mpr (.inr rfl))
  have started : ((runMake compiling none).on toolchainHost).2.launches.length = 1 := by
    decide +kernel
  cases starts with
  | nothing launches =>
    rw [launches] at started
    contradiction
  | once launches starts left => exact ⟨_, launches, starts.byPath (by decide)⟩

/-- The project of the example, where the environment names the toolchain by a bare name. There is a file
of that name in the working directory, and a program of that name on the search path. -/
def bareNameHost : Host :=
  { toolchainHost with
    files := ⟨toolchainHost.files.entries ++ [([Utf8.encode "go"], .file [] false)]⟩
    environment := [("GOPHP_GO", Utf8.encode "go"), ("PATH", Utf8.encode "/bin")] }

/-- The toolchain that is started need not be the one that was checked: the file that the bare name leads
to is there, but the program on the search path is started. -/
theorem not_checked_bareName :
    bareNameHost.isFile ⟨Utf8.encode "go"⟩ = true ∧
      ∃ invocation, ((runBuild compiling none).on bareNameHost).2.launches = [invocation] ∧
        invocation.file = destination [] (.ofText "/bin/go") ∧
        invocation.file ≠ destination bareNameHost.directory ⟨Utf8.encode "go"⟩ := by
  have started : ((runBuild compiling none).on bareNameHost).2.launches.map (·.file) =
      [destination [] (.ofText "/bin/go")] := by decide +kernel
  obtain ⟨invocation, launches, isFile⟩ := List.map_eq_singleton_iff.mp started
  refine ⟨by decide +kernel, invocation, launches, isFile, ?_⟩
  rw [isFile]
  decide +kernel

end Command

end FfiBindings
