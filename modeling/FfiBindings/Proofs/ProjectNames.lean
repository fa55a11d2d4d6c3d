import FfiBindings.Proofs.ClassFiles
import FfiBindings.Proofs.Resolution

/-!
# What a project is named after

A source on the command line names the project: its service, which the shared library is called
after, and the class. The class is named later, after the source where it lies in the directory of the
project, and the two names are the same, because the last step of a path stays the last from every
directory. The project file only says where results go, and it need not be usable for that. Without a
source on the command line everything comes from the project file, and then it has to load.
-/

namespace FfiBindings

variable {path source directory : Path} {project : Project} {host : Host}

/-! ### Base names -/

/-- Every byte string but the empty one is shown as something. -/
theorem Utf8.decodeLossy_ne_nil {bytes : Bytes} (nonempty : bytes ≠ []) : decodeLossy bytes ≠ [] := by
  cases bytes with
  | nil => contradiction
  | cons b rest =>
    rw [decodeLossy, pieces]
    exact List.cons_ne_nil _ _

namespace Path

theorem stemOf_ne_nil {name : Bytes} (nonempty : name ≠ []) : stemOf name ≠ [] := by
  unfold stemOf
  split
  · dsimp only
    split
    · exact nonempty
    · next some => simpa using some
  · exact nonempty

/-- A path that ends in a name has a base name, whatever bytes the name consists of. -/
theorem baseName?_of_named {name : Bytes} (named : path.fileName? = some name) :
    path.baseName? = some (Utf8.decodeLossy (stemOf name)) := by
  obtain ⟨-, -, -, -, nonempty, -⟩ := steps_of_fileName? named
  have shown : Utf8.decodeLossy (stemOf name) ≠ [] := Utf8.decodeLossy_ne_nil (stemOf_ne_nil nonempty)
  rw [baseName?, fileStem?, named, Option.map_some, Option.map_some,
    Option.filter_some, if_pos (by simpa using shown)]

/-- A path has the same base name from every directory. -/
theorem baseName?_join {base : Text} (isBase : path.baseName? = some base) (directory : Path) :
    (directory.join path).baseName? = some base := by
  obtain ⟨name, named, rfl⟩ := baseName?_eq_some isBase
  exact baseName?_of_named (fileName?_join_path named directory)

end Path

/-! ### Resolving -/

namespace Config

/-- What loading the project file of a directory gives. -/
def found (directory : Path) (host : Host) : Except FileError Config :=
  ((loadFrom directory).on host).1

theorem found_eq (directory : Path) (host : Host) :
    found directory host = loaded (directory.join fileName)
      (host.files.readText host.directory (directory.join fileName)) := by
  obtain ⟨emissions, loading⟩ := load_on (directory.join fileName) host
  exact congrArg Prod.fst loading

/-- The output places by what loading the project file gives: its own ones, or the usual ones where it
does not load. -/
def places : Except FileError Config → OutputPlaces
  | .ok config => config.output
  | .error _ => .default

end Config

namespace Project

/-- What resolving a project gives. -/
def outcome (source : Option Path) (directory : Path) (host : Host) : Except ProjectError Project :=
  ((resolve source directory).on host).1

theorem outcome_eq (source : Option Path) (directory : Path) (host : Host) :
    outcome source directory host = resolved directory source (Config.found directory host) := by
  obtain ⟨emissions, resolving⟩ := resolve_on source directory host
  rw [Config.found_eq]
  exact congrArg Prod.fst resolving

/-- A project in a directory that is named after a source throughout: the library after the stem of the
source as it was given, the class after that of the source in the directory. -/
structure IsNamedAfter (project : Project) (source directory : Path) : Prop where
  joined : project.source = directory.join source
  service : source.baseName? = some project.service
  base : project.baseName = .ok project.service

/-- A project whose results go to some places in a directory. -/
structure HasPlaces (project : Project) (output : OutputPlaces) (directory : Path) : Prop where
  results : project.outputDirectory = directory.join output.directory
  library : project.libraryDirectory = directory.join output.libraryDirectory

theorem isNamedAfter_place {service : Text} (named : source.baseName? = some service)
    (output : OutputPlaces) : (place directory source service output).IsNamedAfter source directory := by
  have joined : (directory.join source).baseName? = some service :=
    Path.baseName?_join named directory
  refine ⟨rfl, named, ?_⟩
  simp only [baseName, place, joined]

/-- A source with a base name is resolved whatever the project file is. -/
theorem outcome_of_named {service : Text} (named : source.baseName? = some service) (directory : Path)
    (host : Host) :
    outcome (some source) directory host =
      .ok (place directory source service (Config.places (Config.found directory host))) := by
  rw [outcome_eq]
  cases Config.found directory host <;> simp only [resolved, named] <;> rfl

/-- A source without a base name is refused whatever the project file is. -/
theorem outcome_of_nameless (nameless : source.baseName? = none) (directory : Path) (host : Host) :
    outcome (some source) directory host = .error (.invalidSource source) := by
  rw [outcome_eq]
  simp only [resolved, nameless]

/-- What a source on the command line is resolved to. -/
theorem outcome_some_eq_ok_iff :
    outcome (some source) directory host = .ok project ↔
      ∃ base, source.baseName? = some base ∧
        project = place directory source base (Config.places (Config.found directory host)) := by
  constructor
  · intro resolved
    cases named : source.baseName? with
    | none =>
      rw [outcome_of_nameless named] at resolved
      contradiction
    | some base =>
      rw [outcome_of_named named] at resolved
      exact ⟨base, rfl, (Except.ok.inj resolved).symm⟩
  · rintro ⟨base, named, rfl⟩
    exact outcome_of_named named directory host

/-- What the project file is resolved to. -/
theorem outcome_none_eq_ok_iff :
    outcome none directory host = .ok project ↔
      ∃ config, Config.found directory host = .ok config ∧
        project = place directory config.source config.service config.output := by
  rw [outcome_eq]
  cases Config.found directory host with
  | error error => simp [resolved]
  | ok config => simp [resolved, eq_comm]

/-- Resolving a project fails only where it must, and its names agree. A source on the command line
needs a base name and nothing else: then the project is named after it, and the project file gives the
places if it loads. Without a source the project file needs to load, and nothing else. -/
theorem outcome_cases (directory : Path) (host : Host) :
    (∀ source : Path,
      ((∃ project, outcome (some source) directory host = .ok project) ↔
        ∃ base, source.baseName? = some base) ∧
      (source.baseName? = none →
        outcome (some source) directory host = .error (.invalidSource source)) ∧
      ∀ project, outcome (some source) directory host = .ok project →
        project.IsNamedAfter source directory ∧
          project.HasPlaces (Config.places (Config.found directory host)) directory) ∧
    ((∃ project, outcome none directory host = .ok project) ↔
      ∃ config, Config.found directory host = .ok config) ∧
    (∀ error, Config.found directory host = .error error →
      outcome none directory host = .error (.noSource error)) ∧
    ∀ config, Config.found directory host = .ok config →
      outcome none directory host =
        .ok (place directory config.source config.service config.output) := by
  refine ⟨fun source => ⟨?_, ?_, ?_⟩, ?_, ?_, ?_⟩
  · constructor
    · rintro ⟨project, resolved⟩
      obtain ⟨base, named, -⟩ := outcome_some_eq_ok_iff.mp resolved
      exact ⟨base, named⟩
    · rintro ⟨base, named⟩
      exact ⟨_, outcome_of_named named directory host⟩
  · intro nameless
    exact outcome_of_nameless nameless directory host
  · intro project resolved
    obtain ⟨base, named, rfl⟩ := outcome_some_eq_ok_iff.mp resolved
    exact ⟨isNamedAfter_place named _, rfl, rfl⟩
  · constructor
    · rintro ⟨project, resolved⟩
      obtain ⟨config, loads, -⟩ := outcome_none_eq_ok_iff.mp resolved
      exact ⟨config, loads⟩
    · rintro ⟨config, loads⟩
      exact ⟨_, outcome_none_eq_ok_iff.mpr ⟨config, loads, rfl⟩⟩
  · intro error failed
    rw [outcome_eq, failed]
    rfl
  · intro config loads
    exact outcome_none_eq_ok_iff.mpr ⟨config, loads, rfl⟩

/-- A host whose project file is no text. -/
def garbledHost : Host where
  files := ⟨[([Utf8.encode ".gophp.yaml"], .file [0xFF] false)]⟩
  directory := []
  environment := []
  clock := ⟨"2024-05-01", "12:00", "3"⟩
  isColored := false
  input := []
  log := ⟨0, none⟩
  emissions := []
  launches := []

/-- The same host with a project file that loads. -/
def describedHost : Host :=
  { garbledHost with
    files := ⟨[([Utf8.encode ".gophp.yaml"],
      .file (Utf8.encode "service: calc\nsource: calc.go\noutput:\n  dir: out\n") false)]⟩ }

/-- The law where the project file does not load and where it does. A slash and a `.` behind the source do
not matter to its name, and the project file only to the places. -/
theorem outcome_cases_garbled :
    (∃ project, outcome (some (.ofText "lib/../src/calc.v2.go/.")) (.ofText "/") garbledHost = .ok project ∧
      project.service = "calc.v2" ∧ project.baseName = .ok "calc.v2" ∧
      project.outputDirectory = .ofText "/dist") ∧
    outcome (some (.ofText "src/..")) (.ofText "/") garbledHost =
      .error (.invalidSource (.ofText "src/..")) ∧
    outcome none (.ofText "/") garbledHost =
      .error (.noSource (.unreadable (.ofText "/.gophp.yaml") .invalidText)) ∧
    (∃ project, outcome (some (.ofText "src/calc.v2.go")) (.ofText "/") describedHost = .ok project ∧
      project.service = "calc.v2" ∧ project.outputDirectory = .ofText "/out") ∧
    ∃ project, outcome none (.ofText "/") describedHost = .ok project ∧ project.service = "calc" := by
  obtain ⟨fromCommand, -, unresolved, -⟩ := outcome_cases (.ofText "/") garbledHost
  obtain ⟨described, -, -, resolved⟩ := outcome_cases (.ofText "/") describedHost
  have unreadable : Config.found (.ofText "/") garbledHost =
      .error (.unreadable (.ofText "/.gophp.yaml") .invalidText) := by decide +kernel
  have loaded : Config.found (.ofText "/") describedHost =
      .ok ⟨"calc", .ofText "calc.go", ⟨.ofText "out", .ofText "dist/lib"⟩⟩ := by decide +kernel
  have base : (Path.ofText "lib/../src/calc.v2.go/.").baseName? = some "calc.v2" := by decide +kernel
  have sameBase : (Path.ofText "src/calc.v2.go").baseName? = some "calc.v2" := by decide +kernel
  obtain ⟨succeeds, -, agrees⟩ := fromCommand (.ofText "lib/../src/calc.v2.go/.")
  obtain ⟨project, isProject⟩ := succeeds.mpr ⟨_, base⟩
  obtain ⟨named, placed⟩ := agrees project isProject
  obtain ⟨succeedsToo, -, agreesToo⟩ := described (.ofText "src/calc.v2.go")
  obtain ⟨other, isOther⟩ := succeedsToo.mpr ⟨_, sameBase⟩
  obtain ⟨otherNamed, otherPlaced⟩ := agreesToo other isOther
  have service : project.service = "calc.v2" := Option.some.inj (named.service.symm.trans base)
  have results := placed.results
  have otherResults := otherPlaced.results
  rw [unreadable] at results
  rw [loaded] at otherResults
  refine ⟨⟨project, isProject, service, service ▸ named.base, results.trans (by decide)⟩,
    (fromCommand _).2.1 (by decide +kernel), unresolved _ unreadable,
    ⟨other, isOther, Option.some.inj (otherNamed.service.symm.trans sameBase),
      otherResults.trans (by decide)⟩, _, resolved _ loaded, rfl⟩

end Project

end FfiBindings
