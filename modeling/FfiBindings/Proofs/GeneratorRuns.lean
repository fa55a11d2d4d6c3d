import FfiBindings.Proofs.Effects

/-!
# Runs of the generator

How far a run of the generator gets decides what it gives and what it leaves. The relations here tell
the possible runs apart, one rule for each way a run can end, and say of each which accesses to files
it has made.
-/

namespace FfiBindings

namespace Service

open Source (ExportedFunction)

/-- The path of the file of the service class for a base name. -/
def classPath (base : Text) (directory : Path) : Path :=
  directory.join (.ofText (Names.ofBaseName base).fileName)

/-- The content of that file. -/
def classContent (functions : List ExportedFunction) (base : Text) : Bytes :=
  Utf8.encode (render functions (.ofBaseName base))

/-- The runs that write a service class. -/
inductive Saves (functions : List ExportedFunction) (base : Text) (directory : Path) (host : Host) :
    Except FileError Path → Host → Prop where
  | blank (isBlank : (Text.trim base).isEmpty = true) :
      Saves functions base directory host (.error (.invalidBaseName base)) host
  | noDirectory {made : FileSystem} {fault : Fault}
      (failed : host.files.makeDirectories host.directory directory = (made, .error fault)) :
      Saves functions base directory host (.error (.noDirectory directory fault))
        { host with files := made }
  | unwritable {made : FileSystem} {fault : Fault} {emissions : List Emission}
      (prepared : host.files.makeDirectories host.directory directory = (made, .ok ()))
      (refused : made.write host.directory (classPath base directory)
        (host.held (classContent functions base)) = .error fault) :
      Saves functions base directory host (.error (.unwritable (classPath base directory) fault))
        { host with files := made, emissions }
  | cut {made files : FileSystem} {emissions : List Emission}
      (prepared : host.files.makeDirectories host.directory directory = (made, .ok ()))
      (stored : made.write host.directory (classPath base directory)
        (host.held (classContent functions base)) = .ok files)
      (exceeds : host.held (classContent functions base) ≠ classContent functions base) :
      Saves functions base directory host (.error (.unwritable (classPath base directory) .tooLarge))
        { host with files, emissions }
  | written {made files : FileSystem} {emissions : List Emission}
      (named : (Text.trim base).isEmpty = false)
      (prepared : host.files.makeDirectories host.directory directory = (made, .ok ()))
      (stored : made.write host.directory (classPath base directory)
        (classContent functions base) = .ok files)
      (fits : host.held (classContent functions base) = classContent functions base) :
      Saves functions base directory host (.ok (classPath base directory))
        { host with files, emissions }

theorem saves (functions : List ExportedFunction) (base : Text) (directory : Path) (host : Host) :
    Saves functions base directory host ((save functions base directory).on host).1
      ((save functions base directory).on host).2 := by
  unfold save
  cases blank : (Text.trim base).isEmpty with
  | true =>
    simp only [if_true]
    exact .blank blank
  | false =>
    simp only [Bool.false_eq_true, if_false]
    rcases prepared : host.files.makeDirectories host.directory directory with ⟨made, fault | _⟩
    · have failed := Host.makeDirectories_on_of_error prepared
      rw [Action.on_bind_of_error (Action.on_orElseThrow_of_error failed _)]
      exact .noDirectory prepared
    · have done := Host.makeDirectories_on_of_ok prepared
      rw [Action.on_bind_of_ok (Action.on_orElseThrow_of_ok done _), Action.on_lift_bind,
        Host.run_report, ← classPath]
      dsimp only
      generalize host.emissions ++ _ = emissions
      rcases Host.writeText_cases (classPath base directory) (render functions (.ofBaseName base))
          { host with files := made, emissions } with
        ⟨fault, refused, ended⟩ | ⟨files, exceeds, stored, ended⟩ | ⟨files, fits, stored, ended⟩
      · rw [Action.on_bind_of_error (Action.on_orElseThrow_of_error ended _)]
        exact .unwritable prepared refused
      · rw [Action.on_bind_of_error (Action.on_orElseThrow_of_error ended _)]
        exact .cut prepared stored exceeds
      · rw [Action.on_bind_of_ok (Action.on_orElseThrow_of_ok ended _), Action.on_lift_bind,
          Host.run_report]
        exact .written blank prepared stored fits

end Service

namespace Command

open Source (Extraction extractionOf)

/-- The first half of a run that can extract: the source is read after the step is announced, and the
places passed over are told about. -/
structure Extracted (project : Project) (host : Host) (base : Text) (extraction : Extraction)
    (announced told : Host) : Prop where
  named : project.source.baseName? = some base
  announcing : host.LogsOnly announced
  read : extractionOf project.source
    (announced.files.readText announced.directory project.source) = .ok extraction
  telling : announced.LogsOnly told

/-- The runs of the generator. -/
inductive Generates (project : Project) (host : Host) :
    Except ProjectError Generated → Host → Prop where
  | nameless (unnamed : project.source.baseName? = none) :
      Generates project host (.error (.invalidSource project.source)) host
  | unextracted {error : Source.FileError} {announced after : Host}
      (announcing : host.LogsOnly announced)
      (failed : extractionOf project.source
        (announced.files.readText announced.directory project.source) = .error error)
      (reporting : announced.LogsOnly after) :
      Generates project host (.error (.source error)) after
  | noLibraryDirectory {base : Text} {extraction : Extraction} {announced told : Host}
      {made : FileSystem} {fault : Fault}
      (extracted : Extracted project host base extraction announced told)
      (failed : told.files.makeDirectories told.directory project.libraryDirectory =
        (made, .error fault)) :
      Generates project host (.error (.noDirectory project.libraryDirectory fault))
        { told with files := made }
  | unsaved {base : Text} {extraction : Extraction} {announced told ready after : Host}
      {made : FileSystem} {error : Service.FileError}
      (extracted : Extracted project host base extraction announced told)
      (prepared : told.files.makeDirectories told.directory project.libraryDirectory =
        (made, .ok ()))
      (readying : Host.LogsOnly { told with files := made } ready)
      (failed : Service.Saves extraction.functions base project.outputDirectory ready
        (.error error) after) :
      Generates project host (.error (.service error)) after
  | saved {base : Text} {extraction : Extraction} {announced told ready after : Host}
      {made : FileSystem} {path : Path}
      (extracted : Extracted project host base extraction announced told)
      (prepared : told.files.makeDirectories told.directory project.libraryDirectory =
        (made, .ok ()))
      (readying : Host.LogsOnly { told with files := made } ready)
      (stored : Service.Saves extraction.functions base project.outputDirectory ready
        (.ok path) after) :
      Generates project host (.ok ⟨extraction, path⟩) after

/-- What a run does once the source is extracted. -/
def store (project : Project) (base : Text) (extraction : Extraction) :
    Action ProjectError Generated := do
  (Host.makeDirectories project.libraryDirectory).orElseThrow
    (.noDirectory project.libraryDirectory)
  Log.write (.step ("Writing bindings to " ++ project.outputDirectory.display))
  let path ← (Service.save extraction.functions base project.outputDirectory).orElseThrow
    .service
  return ⟨extraction, path⟩

/-- A run that has extracted the source ends as its second half does. -/
theorem generates_of_extracted {project : Project} {host announced told : Host} {base : Text}
    {extraction : Extraction} (extracted : Extracted project host base extraction announced told) :
    Generates project host ((store project base extraction).on told).1
      ((store project base extraction).on told).2 := by
  unfold store
  rcases prepared : told.files.makeDirectories told.directory project.libraryDirectory with
    ⟨made, fault | _⟩
  · have failed := Host.makeDirectories_on_of_error prepared
    rw [Action.on_bind_of_error (Action.on_orElseThrow_of_error failed _)]
    exact .noLibraryDirectory extracted prepared
  · have done := Host.makeDirectories_on_of_ok prepared
    rw [Action.on_bind_of_ok (Action.on_orElseThrow_of_ok done _), Action.on_lift_bind]
    have readying := Host.logsOnly_write
      (.step ("Writing bindings to " ++ project.outputDirectory.display))
      { told with files := made }
    generalize ((Log.write (.step ("Writing bindings to " ++
      project.outputDirectory.display))).run { told with files := made }).2 = ready
      at readying ⊢
    have saving := Service.saves extraction.functions base project.outputDirectory ready
    rcases saved : (Service.save extraction.functions base project.outputDirectory).on ready
      with ⟨error | path, after⟩
    · rw [saved] at saving
      rw [Action.on_bind_of_error (Action.on_orElseThrow_of_error saved _)]
      exact .unsaved extracted prepared readying saving
    · rw [saved] at saving
      rw [Action.on_bind_of_ok (Action.on_orElseThrow_of_ok saved _)]
      exact .saved extracted prepared readying saving

/-- Every run of the generator is one of these. -/
theorem generates (project : Project) (host : Host) :
    Generates project host ((generate project).on host).1 ((generate project).on host).2 := by
  unfold generate
  have naming : Action.on (ExceptT.mk (pure project.baseName) : Action ProjectError Text) host =
      (project.baseName, host) := rfl
  cases named : project.source.baseName? with
  | none =>
    rw [Project.baseName, named] at naming
    rw [Project.baseName, named, Action.on_bind_of_error naming]
    exact .nameless named
  | some base =>
    rw [Project.baseName, named] at naming
    rw [Project.baseName, named, Action.on_bind_of_ok naming, Action.on_lift_bind]
    have announcing := Host.logsOnly_write
      (.step ("Extracting exports from " ++ project.source.display)) host
    generalize ((Log.write (.step ("Extracting exports from " ++ project.source.display))).run
      host).2 = announced at announcing ⊢
    obtain ⟨emissions, extracting⟩ := Source.extractFile_on project.source announced
    cases read : extractionOf project.source
        (announced.files.readText announced.directory project.source) with
    | error error =>
      rw [read] at extracting
      rw [Action.on_bind_of_error (Action.on_orElseThrow_of_error extracting _)]
      exact .unextracted announcing read (.emit announced emissions)
    | ok extraction =>
      rw [read] at extracting
      rw [Action.on_bind_of_ok (Action.on_orElseThrow_of_ok extracting _), Action.on_lift_bind]
      have telling := (Host.LogsOnly.emit announced emissions).trans
        (Host.logsOnly_logSkipped extraction.skipped { announced with emissions })
      exact generates_of_extracted ⟨named, announcing, read, telling⟩

end Command

end FfiBindings
