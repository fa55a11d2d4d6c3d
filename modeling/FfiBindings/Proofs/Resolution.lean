import FfiBindings.Project
import FfiBindings.Proofs.Effects
import FfiBindings.Proofs.WorkingPaths

/-!
# Resolving a project again

Which project a command works on depends on the project file alone, and there only on what it says
where it can be loaded. A run of the generator changes nothing about that: it writes no project file,
and it makes no directory that the path of the working directory passes through, since all of those
are there. So the project is resolved to the same one afterwards.
-/

namespace FfiBindings

open FileSystem

variable {source : Option Path} {directory : Path} {project : Project} {host after : Host}

/-- What a project file gives, by what reading it gives. -/
def Config.loaded (path : Path) : Except Fault Text → Except FileError Config
  | .error fault => .error (.unreadable path fault)
  | .ok text => (parse text).mapError (.malformed path)

/-- Loading a project file depends on what reading it gives, and changes nothing. -/
theorem Config.load_on (path : Path) (host : Host) :
    ∃ emissions, (Config.load path).on host =
      (loaded path (host.files.readText host.directory path), { host with emissions }) := by
  have reading (host : Host) :
      ((Host.readText path).orElseThrow (FileError.unreadable path)).on host =
        ((host.files.readText host.directory path).mapError (.unreadable path), host) := rfl
  refine ⟨((Host.report .debug fileTarget
    ("Loading project config from " ++ path.display)).run host).2.emissions, ?_⟩
  unfold Config.load
  rw [Action.on_lift_bind, Host.run_report]
  cases read : host.files.readText host.directory path with
  | error fault =>
    rw [Action.on_bind_of_error ((reading _).trans (by rw [read]; rfl))]
    rfl
  | ok text =>
    rw [Action.on_bind_of_ok ((reading _).trans (by rw [read]; rfl)), loaded]
    cases parse text <;> rfl

theorem Config.loaded_eq_ok_iff {path : Path} {read : Except Fault Text} {config : Config} :
    loaded path read = .ok config ↔ ∃ text, read = .ok text ∧ parse text = .ok config := by
  cases read with
  | error fault => simp [loaded]
  | ok text => cases parsed : parse text <;> simp [loaded, Except.mapError, parsed]

namespace Project

/-- The project that a source and a project file give. -/
def resolved (directory : Path) : Option Path → Except Config.FileError Config →
    Except ProjectError Project
  | none, .ok config => .ok (place directory config.source config.service config.output)
  | none, .error error => .error (.noSource error)
  | some source, config =>
      match source.baseName? with
      | some service =>
          .ok (place directory source service ((config.toOption.map (·.output)).getD .default))
      | none => .error (.invalidSource source)

/-- Resolving a project depends on what loading the project file gives, and changes nothing. -/
theorem resolve_on (source : Option Path) (directory : Path) (host : Host) :
    ∃ emissions, (resolve source directory).on host =
      (resolved directory source (Config.loaded (directory.join Config.fileName)
        (host.files.readText host.directory (directory.join Config.fileName))),
        { host with emissions }) := by
  obtain ⟨emissions, loading⟩ := Config.load_on (directory.join Config.fileName) host
  generalize Config.loaded _ _ = config at loading ⊢
  have attempted (next : Except Config.FileError Config → Action ProjectError Project) :
      ((liftM (Config.loadFrom directory).run : Action ProjectError _) >>= next).on host =
        (next config).on { host with emissions } := by
    rw [Action.on_lift_bind]
    change (next ((Config.load _).on host).1).on ((Config.load _).on host).2 = _
    rw [loading]
  unfold resolve
  rw [attempted]
  cases source with
  | none => cases config <;> exact ⟨emissions, rfl⟩
  | some source =>
    cases named : source.baseName? <;> cases config <;> simp only [resolved, named] <;> exact ⟨_, rfl⟩

/-- Only what a project file says where it can be loaded matters to a project. -/
theorem resolved_congr {config other : Except Config.FileError Config}
    (same : ∀ value, config = .ok value ↔ other = .ok value)
    (done : resolved directory source config = .ok project) :
    resolved directory source other = .ok project := by
  cases config with
  | ok value => rwa [(same value).mp rfl]
  | error error =>
    cases other with
    | ok value => exact absurd ((same value).mpr rfl) (by simp)
    | error otherError =>
      cases source with
      | none => simp [resolved] at done
      | some source => exact done

end Project

namespace Host

/-- The path of the project file in the working directory. -/
def configPath (host : Host) : Path := host.workingPath.join Config.fileName

/-- The project that a source and the project file in the working directory give. -/
def resolved (host : Host) (source : Option Path) : Except ProjectError Project :=
  Project.resolved host.workingPath source
    (Config.loaded host.configPath (host.files.readText host.directory host.configPath))

/-- A host whose working directory is there, under proper names. -/
structure Rooted (host : Host) : Prop where
  names : ∀ name ∈ host.directory, isName name = true
  above : ∀ above, above <:+ host.directory → host.files.entryAt? above = some .directory

theorem rooted_of_tree (tree : host.files.isTree = true)
    (found : host.files.entryAt? host.directory = some .directory) : host.Rooted :=
  ⟨names_of_directory tree found, fun _ isAbove => directory_above tree found isAbove⟩

theorem SameSetting.workingPath (same : host.SameSetting after) :
    after.workingPath = host.workingPath := by
  rw [show after = _ from same]
  rfl

theorem SameSetting.configPath (same : host.SameSetting after) :
    after.configPath = host.configPath := by
  rw [Host.configPath, Host.configPath, same.workingPath]

namespace Rooted

theorem steps_configPath (rooted : host.Rooted) :
    host.configPath.steps = host.directory.reverse ++ [Utf8.encode ".gophp.yaml"] := by
  have isRelative : Config.fileName.isAbsolute = false := by decide
  have single : Config.fileName.steps = [Utf8.encode ".gophp.yaml"] := by decide
  rw [configPath, Path.steps_join isRelative, steps_workingPath rooted.names, single]

/-- The way to the project file passes through nothing but directories that are there, and ends at
the project file. -/
theorem way_to_config (rooted : host.Rooted) {beginning : List Bytes}
    (isPrefix : beginning <+: host.configPath.steps) :
    host.files.entryAt? (walk (origin host.directory host.configPath) beginning) =
        some .directory ∨
      walk (origin host.directory host.configPath) beginning =
        destination host.directory host.configPath := by
  have isRelative : Config.fileName.isAbsolute = false := by decide
  have atRoot : origin host.directory host.configPath = [] := by
    rw [origin, configPath, Path.isAbsolute_join isRelative, isAbsolute_workingPath, if_pos rfl]
  rw [rooted.steps_configPath] at isPrefix
  rcases List.prefix_concat_iff.mp isPrefix with whole | onWay
  · right
    rw [destination, rooted.steps_configPath, whole]
  · left
    have isAbove : beginning.reverse <:+ host.directory := by
      rw [← List.reverse_prefix, List.reverse_reverse]
      exact onWay
    have names : ∀ name ∈ beginning, isName name = true := fun name member =>
      rooted.names name (isAbove.subset (List.mem_reverse.mpr member))
    rw [atRoot, walk_names names, List.append_nil]
    exact rooted.above _ isAbove

/-- What was not lost and not taken away, and the project file as it was, give the same text. -/
theorem readText_config_iff (rooted : host.Rooted) (setting : host.SameSetting after)
    (grown : Grows host.files after.files) {allowed : Location → Prop}
    (made : MayMake allowed host.files after.files (destination host.directory host.configPath))
    (text : Text) :
    host.files.readText host.directory host.configPath = .ok text ↔
      after.files.readText after.directory after.configPath = .ok text := by
  rw [setting.directory, setting.configPath, readText_eq_ok_iff, readText_eq_ok_iff]
  constructor <;> rintro ⟨content, read, decoded⟩
  · obtain ⟨-, executable, found⟩ := read_eq_ok_iff.mp read
    exact ⟨content, grown.read ((made.kept found).trans found.symm) read, decoded⟩
  · obtain ⟨-, executable, found⟩ := read_eq_ok_iff.mp read
    have same : after.files.entryAt? (destination host.directory host.configPath) =
        host.files.entryAt? (destination host.directory host.configPath) := by
      rcases made with same | ⟨⟨-, directory⟩, -⟩
      · exact same
      · simp [found] at directory
    refine ⟨content, read_back (fun beginning isPrefix directory => ?_) same read, decoded⟩
    rcases rooted.way_to_config isPrefix with there | isConfig
    · exact there
    · simp [isConfig, found] at directory

/-- A run that changes no more than that leaves the project the same. -/
theorem resolved_eq_ok_iff (rooted : host.Rooted) (setting : host.SameSetting after)
    (grown : Grows host.files after.files) {allowed : Location → Prop}
    (made : MayMake allowed host.files after.files (destination host.directory host.configPath)) :
    host.resolved source = .ok project ↔ after.resolved source = .ok project := by
  have same (config : Config) :
      Config.loaded host.configPath (host.files.readText host.directory host.configPath) =
          .ok config ↔
        Config.loaded after.configPath (after.files.readText after.directory after.configPath) =
          .ok config := by
    simp only [Config.loaded_eq_ok_iff, rooted.readText_config_iff setting grown made]
  unfold resolved
  rw [setting.workingPath]
  exact ⟨Project.resolved_congr same, Project.resolved_congr fun config => (same config).symm⟩

end Rooted

end Host

end FfiBindings
