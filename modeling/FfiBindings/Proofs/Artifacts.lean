import FfiBindings.Build.Plan
import FfiBindings.Proofs.FileNames
import FfiBindings.Proofs.ProjectNames

/-!
# Where a build leaves its results

A library is called after its service, with the platform behind it, and its header has the same name but
for the extension. Both lie in the library directory itself as long as the name of the service has no
slash. The name at the end of a source never has one. One that a project file gives is taken as it is
written: what stands up to its last slash leads to another directory, and the results lie there.
-/

namespace FfiBindings.Build

open FileSystem (isName)

variable {service : Text} {source : Option Path} {directory : Path} {project : Project} {host : Host}
  {target : Target}

/-- Whether a plan leaves its two results in a directory: both have that parent, and they have two names
that differ in the extension. -/
structure Plan.StaysIn (plan : Plan) (directory : Path) : Prop where
  library : plan.library.parent?.map (·.components) = some directory.components
  header : plan.header.parent?.map (·.components) = some directory.components
  apart : plan.library ≠ plan.header
  names : ∃ stem extension, Path.dot ∉ extension ∧
    plan.library.fileName? = some (stem ++ Path.dot :: extension) ∧
    plan.header.fileName? = some (stem ++ Path.dot :: Utf8.encode "h")

namespace Target

/-- The names of a platform have no slash. They become part of a file name. -/
structure IsPlain (target : Target) : Prop where
  system : '/' ∉ target.system
  architecture : '/' ∉ target.architecture

theorem isPlain_host : Target.host.IsPlain := ⟨by decide, by decide⟩

/-- The name of a library before its extension. -/
def libraryStem (target : Target) (service : Text) : Bytes :=
  Utf8.encode (service ++ "-" ++ target.system ++ "-" ++ target.architecture)

theorem encode_libraryName (target : Target) (service : Text) :
    Utf8.encode (target.libraryName service) =
      target.libraryStem service ++ Path.dot :: Utf8.encode target.libraryExtension := by
  rw [libraryName, libraryStem, Utf8.encode_append, Utf8.encode_append, List.append_assoc]
  rfl

theorem libraryExtension_cases (target : Target) :
    target.libraryExtension = "dll" ∨ target.libraryExtension = "dylib" ∨
      target.libraryExtension = "so" := by
  unfold libraryExtension
  split
  · exact .inl rfl
  · split
    · exact .inr (.inl rfl)
    · exact .inr (.inr rfl)

/-- An extension of libraries is one for the name of a file, and not that of headers. -/
theorem libraryExtension_proper (target : Target) :
    Path.slash ∉ Utf8.encode target.libraryExtension ∧ Path.dot ∉ Utf8.encode target.libraryExtension ∧
      Utf8.encode target.libraryExtension ≠ Utf8.encode "h" := by
  rcases target.libraryExtension_cases with library | library | library <;> rw [library] <;> decide

theorem slash_notMem_libraryStem (plain : target.IsPlain) (whole : '/' ∉ service) :
    Path.slash ∉ target.libraryStem service := by
  refine Utf8.slash_notMem_encode ?_
  simp only [List.mem_append, not_or]
  exact ⟨⟨⟨⟨whole, by decide⟩, plain.system⟩, by decide⟩, plain.architecture⟩

theorem length_libraryStem (target : Target) (service : Text) :
    2 ≤ (target.libraryStem service).length := by
  refine Nat.le_trans ?_ (Utf8.length_le_encode _)
  simp only [List.length_append, show ("-" : Text).length = 1 from rfl]
  omega

end Target

open Target (slash_notMem_libraryStem length_libraryStem)

/-- A service whose name has no slash is built in the library directory, for every platform. -/
theorem staysIn_of_whole (plain : target.IsPlain) (whole : '/' ∉ project.service) :
    (Plan.ofProject project target).StaysIn project.libraryDirectory := by
  have long := length_libraryStem target project.service
  have wholeStem := slash_notMem_libraryStem plain whole
  obtain ⟨wholeEnd, dotless, apart⟩ := target.libraryExtension_proper
  have named (extension : Bytes) (wholeExtension : Path.slash ∉ extension) :
      isName (target.libraryStem project.service ++ Path.dot :: extension) = true :=
    Path.isName_append (Nat.le_add_right_of_le long) wholeStem wholeExtension
  have libraryNamed := named (Utf8.encode target.libraryExtension) wholeEnd
  have headerNamed := named (Utf8.encode "h") (by decide)
  have library : (Plan.ofProject project target).library = project.libraryDirectory.join
      ⟨target.libraryStem project.service ++ Path.dot :: Utf8.encode target.libraryExtension⟩ := by
    rw [← Target.encode_libraryName]
    rfl
  have header : (Plan.ofProject project target).header = project.libraryDirectory.join
      ⟨target.libraryStem project.service ++ Path.dot :: Utf8.encode "h"⟩ := by
    rw [← Path.withExtension_join long wholeStem wholeEnd dotless (by decide : '/' ∉ ("h" : Text)),
      ← library]
    rfl
  have libraryName := Path.fileName?_join libraryNamed project.libraryDirectory
  have headerName := Path.fileName?_join headerNamed project.libraryDirectory
  rw [← library] at libraryName
  rw [← header] at headerName
  refine ⟨?_, ?_, ?_, _, _, dotless, libraryName, headerName⟩
  · rw [library]
    exact Path.components_parent_join libraryNamed _
  · rw [header]
    exact Path.components_parent_join headerNamed _
  · intro same
    rw [same, headerName, Option.some.injEq, List.append_cancel_left_eq, List.cons.injEq] at libraryName
    exact apart libraryName.2.symm

/-- A service that is named by the source on the command line has no slash in its name. -/
theorem slash_notMem_service {path : Path}
    (resolved : ((Project.resolve (some path) directory).on host).1 = .ok project) :
    '/' ∉ project.service := by
  obtain ⟨service, named, rfl⟩ := Project.outcome_some_eq_ok_iff.mp resolved
  exact Path.slash_notMem_baseName named

/-! ### Services with slashes -/

/-- What the name of a service leads through: all up to its last slash. -/
def servicePlace (service : Text) : Text := (service.reverse.dropWhile (· != '/')).reverse

/-- What stands behind the last slash in the name of a service. -/
def serviceEnd (service : Text) : Text := (service.reverse.takeWhile (· != '/')).reverse

theorem servicePlace_append_serviceEnd (service : Text) :
    servicePlace service ++ serviceEnd service = service := by
  rw [servicePlace, serviceEnd, ← List.reverse_append, List.takeWhile_append_dropWhile,
    List.reverse_reverse]

theorem slash_notMem_serviceEnd (service : Text) : '/' ∉ serviceEnd service := by
  intro member
  simpa using List.mem_takeWhile_imp (List.mem_reverse.mp member)

theorem allowsName_servicePlace (service : Text) :
    Path.AllowsName (Utf8.encode (servicePlace service)) := by
  cases shape : service.reverse.dropWhile (· != '/') with
  | nil => exact .inl (by rw [servicePlace, shape]; rfl)
  | cons c rest =>
    have isSlash : c = '/' := by
      have first := List.head?_dropWhile_not (· != '/') service.reverse
      rw [shape] at first
      simpa using first
    refine .inr ⟨Utf8.encode rest.reverse, ?_⟩
    rw [servicePlace, shape, isSlash, List.reverse_cons, Utf8.encode, List.flatMap_append]
    rfl

/-- A project with the library directory that the name of its service leads to, and the rest of the
name. -/
def led (project : Project) : Project :=
  { project with
    service := serviceEnd project.service
    libraryDirectory := project.libraryDirectory.join (.ofText (servicePlace project.service)) }

/-- Where the name of a service leads to another directory, the plan is that for the directory. -/
theorem plan_led (plain : target.IsPlain) (project : Project) :
    Plan.ofProject project target = Plan.ofProject (led project) target := by
  have long := length_libraryStem target (serviceEnd project.service)
  have named : isName (target.libraryStem (serviceEnd project.service) ++
      Path.dot :: Utf8.encode target.libraryExtension) = true :=
    Path.isName_append (Nat.le_add_right_of_le long)
      (slash_notMem_libraryStem plain (slash_notMem_serviceEnd project.service))
      target.libraryExtension_proper.1
  have cut : target.libraryStem project.service = Utf8.encode (servicePlace project.service) ++
      target.libraryStem (serviceEnd project.service) := by
    rw [Target.libraryStem, Target.libraryStem, ← Utf8.encode_append]
    simp only [← List.append_assoc, servicePlace_append_serviceEnd]
  have joined := Path.join_append_name (allowsName_servicePlace project.service) named
    project.libraryDirectory
  rw [← List.append_assoc, ← cut, ← Target.encode_libraryName, ← Target.encode_libraryName] at joined
  exact congrArg (fun library => (⟨library, headerPath library,
    sharedLibraryArguments library project.source⟩ : Plan)) joined

/-- The results of a build lie in the directory that the name of the service leads to. -/
theorem staysIn_place (plain : target.IsPlain) (project : Project) :
    (Plan.ofProject project target).StaysIn
      (project.libraryDirectory.join (.ofText (servicePlace project.service))) := by
  rw [plan_led plain]
  have whole : '/' ∉ (led project).service := slash_notMem_serviceEnd project.service
  exact staysIn_of_whole plain whole

/-- The results of a build have two names in one directory, which differ in the extension, for the host
and for every other platform whose names have no slash. It is the directory that the name of the service
leads to from the library directory. For a service that is named by the source on the command line this
is the library directory itself, and so it is for one that the project file names without a slash. -/
theorem staysIn_of_resolve (plain : target.IsPlain)
    (resolved : ((Project.resolve source directory).on host).1 = .ok project) :
    (Plan.ofProject project target).StaysIn
        (project.libraryDirectory.join (.ofText (servicePlace project.service))) ∧
      (source.isSome = true ∨ '/' ∉ project.service →
        (Plan.ofProject project target).StaysIn project.libraryDirectory) := by
  refine ⟨staysIn_place plain project, fun named => staysIn_of_whole plain ?_⟩
  rcases named with given | whole
  · obtain ⟨path, rfl⟩ := Option.isSome_iff_exists.mp given
    exact slash_notMem_service resolved
  · exact whole

/-- A host whose project file names a service that leads up. -/
def climbingHost : Host where
  files := ⟨[([Utf8.encode ".gophp.yaml"],
    .file (Utf8.encode "service: ../calc\nsource: calc.go\n") false)]⟩
  directory := []
  environment := []
  clock := ⟨"2024-05-01", "12:00", "3"⟩
  isColored := false
  input := []
  log := ⟨0, none⟩
  emissions := []
  launches := []

/-- The project that the project file describes. -/
def climbingProject : Project :=
  .place (.ofText "/") (.ofText "calc.go") "../calc" .default

theorem resolve_climbing :
    ((Project.resolve none (.ofText "/")).on climbingHost).1 = .ok climbingProject := by
  decide +kernel

/-- The service of the project file is built above the library directory, that of a source on the command
line in it, for the host and for a Mac. -/
theorem staysIn_of_resolve_climbing :
    (Plan.ofProject climbingProject Target.host).StaysIn (.ofText "/dist/lib/../") ∧
    ∃ project, ((Project.resolve (some (.ofText "src/calc.go")) (.ofText "/")).on climbingHost).1 =
        .ok project ∧
      (Plan.ofProject project Target.host).StaysIn (.ofText "/dist/lib") ∧
      (Plan.ofProject project (.ofPlatform "macos" "aarch64")).StaysIn (.ofText "/dist/lib") := by
  obtain ⟨fromFile, -⟩ := staysIn_of_resolve Target.isPlain_host resolve_climbing
  have above : climbingProject.libraryDirectory.join
      (.ofText (servicePlace climbingProject.service)) = .ofText "/dist/lib/../" := by decide
  rw [above] at fromFile
  have resolved : ((Project.resolve (some (.ofText "src/calc.go")) (.ofText "/")).on climbingHost).1 =
      .ok (.place (.ofText "/") (.ofText "src/calc.go") "calc" .default) := by decide +kernel
  obtain ⟨-, fromSource⟩ := staysIn_of_resolve Target.isPlain_host resolved
  obtain ⟨-, onMac⟩ := staysIn_of_resolve
    (⟨by decide, by decide⟩ : (Target.ofPlatform "macos" "aarch64").IsPlain) resolved
  exact ⟨fromFile, _, resolved, fromSource (.inl rfl), onMac (.inl rfl)⟩

/-- The results of a build need not stay in the library directory of a project that was resolved: a
project file may name a service that leads up. -/
theorem not_staysIn_climbing :
    ((Project.resolve none (.ofText "/")).on climbingHost).1 = .ok climbingProject ∧
      ¬ (Plan.ofProject climbingProject Target.host).StaysIn climbingProject.libraryDirectory := by
  refine ⟨resolve_climbing, fun stays => ?_⟩
  have parent : (Plan.ofProject climbingProject Target.host).library.parent?.map (·.components) =
      some (Path.ofText "/dist/lib/..").components := by decide +kernel
  have apart : (Path.ofText "/dist/lib/..").components ≠
      climbingProject.libraryDirectory.components := by decide +kernel
  exact apart (Option.some.inj (parent.symm.trans stays.library))

end FfiBindings.Build
