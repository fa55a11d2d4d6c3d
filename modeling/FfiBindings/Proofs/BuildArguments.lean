import FfiBindings.Proofs.Artifacts
import FfiBindings.Proofs.TextPaths

/-!
# What a build is told

The arguments of a build are texts, but paths need not be. A path that is no text is shown in the
arguments with replacement characters, and that is another path: so the toolchain is told the right
library and the right source just where these paths are texts. What a project file holds are texts, and
so is the name of a service. Only the directory that they are taken from and a source on the command
line may hold other bytes.
-/

namespace FfiBindings.Build

variable {source : Option Path} {directory : Path} {project : Project} {host : Host} {target : Target}

/-- Where the toolchain is told to write the library: the argument behind the flag for it. -/
def Plan.toldLibrary? (plan : Plan) : Option Path :=
  ((plan.arguments.dropWhile (· != ("-o" : Text))).drop 1).head?.map .ofText

/-- What the toolchain is told to compile: the last argument. -/
def Plan.toldSource? (plan : Plan) : Option Path := plan.arguments.getLast?.map .ofText

theorem toldLibrary?_eq_iff :
    (Plan.ofProject project target).toldLibrary? = some (Plan.ofProject project target).library ↔
      (Plan.ofProject project target).library.IsText := by
  rw [← Path.ofText_display_iff]
  exact Option.some_inj

theorem toldSource?_eq_iff :
    (Plan.ofProject project target).toldSource? = some project.source ↔ project.source.IsText := by
  rw [← Path.ofText_display_iff]
  exact Option.some_inj

/-- The file name of a library is an absolute path where the name of its service is one. -/
theorem isAbsolute_libraryName (target : Target) (service : Text) :
    (Path.ofText (target.libraryName service)).isAbsolute = (Path.ofText service).isAbsolute := by
  have behind : target.libraryName service = service ++ '-' ::
      (target.system ++ "-" ++ target.architecture ++ "." ++ target.libraryExtension) := by
    simp only [Target.libraryName, List.append_assoc]
    rfl
  unfold Path.isAbsolute Path.ofText
  rw [behind, Utf8.encode_append]
  cases Utf8.encode service with
  | nil => rfl
  | cons b rest => rfl

/-- A project is placed in its directory: from the source on the command line, or from one that the
project file holds as a text, and with places that are texts. -/
theorem placed_of_resolve (resolved : ((Project.resolve source directory).on host).1 = .ok project) :
    ∃ given places, project = .place directory given project.service places ∧
      (∀ path ∈ source, given = path) ∧ (source = none → given.IsText) ∧
      Config.PlacesAreTexts places := by
  have texts (config : Config) (isLoaded : Config.found directory host = .ok config) :
      config.source.IsText ∧ Config.PlacesAreTexts config.output := by
    rw [Config.found_eq] at isLoaded
    obtain ⟨text, -, parsed⟩ := Config.loaded_eq_ok_iff.mp isLoaded
    exact Config.isText_of_parse parsed
  cases source with
  | none =>
    obtain ⟨config, loads, rfl⟩ := Project.outcome_none_eq_ok_iff.mp resolved
    exact ⟨config.source, config.output, rfl, by simp, fun _ => (texts config loads).1,
      (texts config loads).2⟩
  | some path =>
    obtain ⟨service, -, rfl⟩ := Project.outcome_some_eq_ok_iff.mp resolved
    refine ⟨path, _, rfl, by simp, by simp, ?_⟩
    cases loads : Config.found directory host with
    | error error => exact Config.placesAreTexts_default
    | ok config => exact (texts config loads).2

/-- What a build is told for a project that was resolved, whatever platform it is for. It is told the
source just where what names the source is a text and is absolute or taken from a directory whose path is
a text. A source that the project file names is a text. It is told the library just where the name of the
service or the place of libraries is absolute, or the directory has a path that is a text. -/
theorem told_of_resolve (target : Target)
    (resolved : ((Project.resolve source directory).on host).1 = .ok project) :
    ∃ given libraries, project.source = directory.join given ∧
      project.libraryDirectory = directory.join libraries ∧
      (∀ path ∈ source, given = path) ∧ (source = none → given.IsText) ∧
      ((Plan.ofProject project target).toldSource? = some project.source ↔
        given.IsText ∧ (given.isAbsolute = true ∨ directory.IsText)) ∧
      ((Plan.ofProject project target).toldLibrary? = some (Plan.ofProject project target).library ↔
        (Path.ofText project.service).isAbsolute = true ∨ libraries.isAbsolute = true ∨
          directory.IsText) := by
  obtain ⟨given, places, placed, fromCommand, fromFile, -, libraries⟩ := placed_of_resolve resolved
  have isSource : project.source = directory.join given := congrArg Project.source placed
  have isLibrary : project.libraryDirectory = directory.join places.libraryDirectory :=
    congrArg Project.libraryDirectory placed
  refine ⟨given, places.libraryDirectory, isSource, isLibrary, fromCommand, fromFile, ?_, ?_⟩
  · rw [toldSource?_eq_iff, isSource, Path.isText_join]
  · rw [toldLibrary?_eq_iff]
    change (project.libraryDirectory.join (.ofText (target.libraryName project.service))).IsText ↔ _
    rw [Path.isText_join, isAbsolute_libraryName, and_iff_right (Path.isText_ofText _), isLibrary,
      Path.isText_join, and_iff_right libraries]

/-- A source whose name has a byte that belongs to no character. -/
def unspeakableSource : Path := ⟨0xFF :: Utf8.encode ".go"⟩

/-- The project of that source in a directory below the root. -/
def unspeakableProject : Project := .place (.ofText "/p") unspeakableSource "\uFFFD" .default

theorem resolve_unspeakable :
    ((Project.resolve (some unspeakableSource) (.ofText "/p")).on Config.plainHost).1 =
      .ok unspeakableProject := by
  decide +kernel

/-- A source with an ordinary name is told in the same directory. -/
theorem told_of_resolve_calc :
    ∃ project, ((Project.resolve (some (.ofText "src/calc.go")) (.ofText "/")).on
        Config.plainHost).1 = .ok project ∧
      (Plan.ofProject project Target.host).toldSource? = some (.ofText "/src/calc.go") ∧
      (Plan.ofProject project Target.host).toldLibrary? =
        some (.ofText "/dist/lib/calc-linux-amd64.so") := by
  have resolved : ((Project.resolve (some (.ofText "src/calc.go")) (.ofText "/")).on
      Config.plainHost).1 = .ok (.place (.ofText "/") (.ofText "src/calc.go") "calc" .default) := by
    decide +kernel
  obtain ⟨given, libraries, isSource, -, fromCommand, -, source, library⟩ :=
    told_of_resolve Target.host resolved
  have isGiven := fromCommand _ rfl
  refine ⟨_, resolved, ?_, ?_⟩
  · exact (source.mpr ⟨isGiven ▸ Path.isText_ofText _, .inr (Path.isText_ofText _)⟩).trans (by decide)
  · exact (library.mpr (.inr (.inr (Path.isText_ofText _)))).trans (by decide)

/-- A build need not be told the source of a project that was resolved: the path that the source is told
by is another one. -/
theorem not_told_unspeakable :
    ((Project.resolve (some unspeakableSource) (.ofText "/p")).on Config.plainHost).1 =
        .ok unspeakableProject ∧
      unspeakableProject.source.bytes = Utf8.encode "/p/" ++ 0xFF :: Utf8.encode ".go" ∧
      (Plan.ofProject unspeakableProject Target.host).toldSource? = some (.ofText "/p/\uFFFD.go") ∧
      (Plan.ofProject unspeakableProject Target.host).toldSource? ≠ some unspeakableProject.source :=
  ⟨resolve_unspeakable, by decide +kernel, by decide +kernel, by decide +kernel⟩

end FfiBindings.Build
