import FfiBindings.Proofs.Leftovers

/-!
# Generating again

A run that succeeds leaves everything in place that another run needs, and the file of the service
class already holds what that run writes. So generating again gives the same and changes nothing. The
source itself is none of the files that a run writes, and neither is the project file.
-/

namespace FfiBindings

namespace FileSystem

variable {before after : FileSystem} {location : Location}

/-- The content and mode of the regular file at a location, if one is there. -/
def fileAt? (files : FileSystem) (location : Location) : Option (Bytes × Bool) :=
  match files.entryAt? location with
  | some (.file content executable) => some (content, executable)
  | _ => none

/-- Making directories changes no regular file. -/
theorem MayMake.fileAt?_eq {allowed : Location → Prop}
    (made : MayMake allowed before after location) :
    after.fileAt? location = before.fileAt? location := by
  unfold fileAt?
  rcases made with same | ⟨⟨free, directory⟩, -⟩
  · rw [same]
  · rw [free, directory]

end FileSystem

open FileSystem

/-- What is in place for a service class after it was written. -/
structure Service.InPlace (functions : List Source.ExportedFunction) (base : Text)
    (directory path : Path) (host : Host) : Prop where
  named : (Text.trim base).isEmpty = false
  fits : host.held (classContent functions base) = classContent functions base
  isPath : path = classPath base directory
  settled : host.files.Settled host.directory directory
  opened : host.files.openFile host.directory path = .ok (destination host.directory path)
  held : ∃ executable, host.files.entryAt? (destination host.directory path) =
    some (.file (classContent functions base) executable)

namespace Service

variable {functions : List Source.ExportedFunction} {base : Text} {directory path : Path}
  {host after : Host}

/-- Writing a service class puts it in place. -/
theorem Saves.inPlace (saving : Saves functions base directory host (.ok path) after) :
    host.SameSetting after ∧ Grows host.files after.files ∧
      InPlace functions base directory path after := by
  cases saving with
  | written named prepared stored fits =>
    have settled := (makeDirectories_changes host.files host.directory directory).2
    rw [prepared] at settled
    obtain ⟨-, held, writing, opened⟩ := write_changes stored
    exact ⟨rfl, grows_of_write prepared stored, named, fits, rfl, writing.settled (settled rfl),
      opened, held⟩

/-- What is in place stays there while the tree grows, and the file is a file. -/
theorem InPlace.grown (inPlace : InPlace functions base directory path host)
    (setting : host.SameSetting after) (grown : Grows host.files after.files) :
    after.files.Settled after.directory directory ∧
      after.files.openFile after.directory path = .ok (destination after.directory path) := by
  obtain ⟨executable, held⟩ := inPlace.held
  have isFile := grown _ false (kindAt?_eq_false_iff.mpr ⟨_, _, held⟩)
  rw [setting.directory]
  exact ⟨grown.settled inPlace.settled, grown.openFile inPlace.opened isFile⟩

/-- Writing a service class that is in place succeeds, and changes nothing as long as the file holds
the class. -/
theorem InPlace.saves {result : Except FileError Path}
    (inPlace : InPlace functions base directory path host) {ready : Host}
    (setting : host.SameSetting ready) (grown : Grows host.files ready.files)
    (saving : Saves functions base directory ready result after) :
    result = .ok path ∧ ∀ location,
      ready.files.entryAt? location = host.files.entryAt? location →
        after.files.entryAt? location = host.files.entryAt? location := by
  obtain ⟨settled, opened⟩ := inPlace.grown setting grown
  have nothingToMake := makeDirectories_of_settled settled
  have isPath := inPlace.isPath
  have fits : ready.held (classContent functions base) = classContent functions base := by
    rw [Host.held, setting.fileLimit]
    exact inPlace.fits
  cases saving with
  | blank isBlank => simp [inPlace.named] at isBlank
  | noDirectory failed => simp [nothingToMake] at failed
  | unwritable prepared refused =>
    obtain rfl : ready.files = _ := by simpa [nothingToMake] using prepared
    obtain ⟨written, done⟩ := write_of_openFile opened (classContent functions base)
    simp [← isPath, fits, done] at refused
  | cut prepared stored exceeds => exact absurd fits exceeds
  | written named prepared stored =>
    obtain rfl : ready.files = _ := by simpa [nothingToMake] using prepared
    refine ⟨congrArg Except.ok isPath.symm, fun location same => ?_⟩
    rw [← isPath, setting.directory] at stored
    by_cases here : location = destination host.directory path
    · obtain ⟨executable, held⟩ := inPlace.held
      rw [here] at same ⊢
      rw [write_unchanged stored (same.trans held), same]
    · rw [(write_changes stored).1 location fun equal => here (Option.some.inj equal).symm, same]

end Service

namespace Command

variable {project : Project} {host after : Host} {generated : Generated}

/-- A project whose service class has been generated from its source as it is. -/
structure UpToDate (project : Project) (host : Host) (generated : Generated) (base source : Text) :
    Prop where
  named : project.source.baseName? = some base
  read : host.files.readText host.directory project.source = .ok source
  extracted : Source.extract source = .ok generated.extraction
  library : host.files.Settled host.directory project.libraryDirectory
  inPlace : Service.InPlace generated.extraction.functions base project.outputDirectory
    generated.path host

/-- A run that succeeds leaves its project up to date, and loses nothing. -/
theorem Generates.upToDate (ran : Generates project host (.ok generated) after)
    (offLog : host.logLocation? ≠ some (destination host.directory project.source)) :
    host.SameSetting after ∧ Grows host.files after.files ∧
      ∃ base source, UpToDate project after generated base source := by
  obtain ⟨base, source, completed⟩ := ran.leaves
  cases ran with
  | @saved sameBase extraction announced told ready _ made path extracted prepared readying stored =>
    obtain rfl : base = sameBase := Option.some.inj (completed.named.symm.trans extracted.named)
    obtain ⟨writing, written, inPlace⟩ := stored.inPlace
    have setting := (extracted.setting readying).trans writing
    have logged := extracted.announcing.trans extracted.telling
    obtain ⟨makes, settled⟩ :=
      makeDirectories_changes told.files told.directory project.libraryDirectory
    rw [prepared, logged.setting.directory] at makes settled
    have fromMade := readying.grown.trans written
    have grown := (logged.grown.trans makes.grows).trans fromMade
    obtain ⟨content, read, decoded⟩ := readText_eq_ok_iff.mp (completed.read offLog)
    have kept : after.files.entryAt? (destination host.directory project.source) =
        host.files.entryAt? (destination host.directory project.source) := by
      obtain ⟨-, executable, found⟩ := read_eq_ok_iff.mp read
      have apart : destination host.directory (Service.classPath base project.outputDirectory) ≠
          destination host.directory project.source :=
        Service.classPath_ne_source project.outputDirectory completed.named
      rw [found]
      exact (completed.elsewhere _ offLog apart.symm).kept found
    refine ⟨setting, grown, base, source, completed.named, ?_, completed.extracted, ?_, inPlace⟩
    · rw [setting.directory]
      exact readText_eq_ok_iff.mpr ⟨content, grown.read kept read, decoded⟩
    · rw [setting.directory]
      exact fromMade.settled (settled rfl)

variable {base source : Text}

/-- A run on an up-to-date project extracts what was extracted before, and has no library directory
to make. -/
theorem UpToDate.extracts (upToDate : UpToDate project host generated base source)
    (offLog : host.logLocation? ≠ some (destination host.directory project.source))
    {sameBase : Text} {extraction : Source.Extraction} {announced told : Host}
    (extracted : Extracted project host sameBase extraction announced told) :
    sameBase = base ∧ extraction = generated.extraction ∧
      told.files.makeDirectories told.directory project.libraryDirectory = (told.files, .ok ()) := by
  have logged := extracted.announcing.trans extracted.telling
  obtain ⟨sameSource, read, whole⟩ := Source.extractionOf_eq_ok_iff.mp extracted.read
  have readBefore := (extracted.announcing.readText_eq_ok_iff offLog).mp read
  obtain rfl : source = sameSource := Except.ok.inj (upToDate.read.symm.trans readBefore)
  refine ⟨Option.some.inj (extracted.named.symm.trans upToDate.named),
    Except.ok.inj (whole.symm.trans upToDate.extracted), makeDirectories_of_settled ?_⟩
  rw [logged.setting.directory]
  exact logged.grown.settled upToDate.library

/-- Generating an up-to-date project succeeds with the same, and changes nothing but the log. -/
theorem UpToDate.generates {again : Host} {result : Except ProjectError Generated}
    (upToDate : UpToDate project host generated base source)
    (offLog : host.logLocation? ≠ some (destination host.directory project.source))
    (ran : Generates project host result again) :
    result = .ok generated ∧ SameBesides host.logLocation? host.files again.files := by
  have saves {told ready : Host} {made : FileSystem} {saved : Except Service.FileError Path}
      (logged : host.LogsOnly told) (nothingMade : made = told.files)
      (readying : Host.LogsOnly { told with files := made } ready)
      (saving : Service.Saves generated.extraction.functions base project.outputDirectory ready
        saved again) :
      saved = .ok generated.path ∧ SameBesides host.logLocation? host.files again.files := by
    subst nothingMade
    have readied := logged.trans readying
    obtain ⟨done, unchanged⟩ := upToDate.inPlace.saves readied.setting readied.grown saving
    exact ⟨done, fun location off => unchanged location (readied.elsewhere location off)⟩
  cases ran with
  | nameless unnamed => simp [upToDate.named] at unnamed
  | unextracted announcing failed reporting =>
    have read := (announcing.readText_eq_ok_iff offLog).mpr upToDate.read
    rw [Source.extractionOf_eq_ok_iff.mpr ⟨source, read, upToDate.extracted⟩] at failed
    contradiction
  | noLibraryDirectory extracted failed =>
    simp [(upToDate.extracts offLog extracted).2.2] at failed
  | unsaved extracted prepared readying failed =>
    obtain ⟨rfl, rfl, nothingToMake⟩ := upToDate.extracts offLog extracted
    have nothingMade := congrArg Prod.fst (prepared.symm.trans nothingToMake)
    have done := (saves (extracted.announcing.trans extracted.telling) nothingMade readying failed).1
    contradiction
  | saved extracted prepared readying stored =>
    obtain ⟨rfl, rfl, nothingToMake⟩ := upToDate.extracts offLog extracted
    have nothingMade := congrArg Prod.fst (prepared.symm.trans nothingToMake)
    obtain ⟨done, unchanged⟩ :=
      saves (extracted.announcing.trans extracted.telling) nothingMade readying stored
    obtain rfl := Except.ok.inj done
    exact ⟨rfl, unchanged⟩

/-- Generating leaves the source and the project file as they are, and writes to another file than the
source. Generating again gives the same and leaves all files as they are. Only the log, which is
neither the source nor the project file, is added to. -/
theorem generate_again (projectDirectory : Path)
    (offSource : host.logLocation? ≠ some (destination host.directory project.source))
    (offConfig : host.logLocation? ≠
      some (destination host.directory (projectDirectory.join Config.fileName)))
    (done : (generate project).on host = (.ok generated, after)) :
    after.files.fileAt? (destination host.directory project.source) =
        host.files.fileAt? (destination host.directory project.source) ∧
      after.files.fileAt? (destination host.directory (projectDirectory.join Config.fileName)) =
        host.files.fileAt? (destination host.directory (projectDirectory.join Config.fileName)) ∧
      destination host.directory generated.path ≠ destination host.directory project.source ∧
      ∃ again, (generate project).on after = (.ok generated, again) ∧
        SameBesides host.logLocation? after.files again.files := by
  have ran := generates project host
  rw [done] at ran
  obtain ⟨base, source, completed⟩ := ran.leaves
  obtain ⟨setting, -, _, _, upToDate⟩ := ran.upToDate offSource
  have notSource : destination host.directory generated.path ≠
      destination host.directory project.source := by
    rw [completed.path]
    exact Service.classPath_ne_source project.outputDirectory completed.named
  have notConfig : destination host.directory generated.path ≠
      destination host.directory (projectDirectory.join Config.fileName) := by
    rw [completed.path]
    exact Service.classPath_ne_config project.outputDirectory projectDirectory
      (Path.slash_notMem_baseName completed.named)
  have offAfter : after.logLocation? ≠ some (destination after.directory project.source) := by
    rw [setting.logLocation?, setting.directory]
    exact offSource
  obtain ⟨same, unchanged⟩ := upToDate.generates offAfter (generates project after)
  rw [setting.logLocation?] at unchanged
  exact ⟨(completed.elsewhere _ offSource (completed.path ▸ notSource.symm)).fileAt?_eq,
    (completed.elsewhere _ offConfig (completed.path ▸ notConfig.symm)).fileAt?_eq, notSource,
    ((generate project).on after).2, Prod.ext same rfl, unchanged⟩

/-- The example is generated, and again with the same result. -/
theorem generate_again_adder :
    ∃ generated after, (generate adderProject).on adderHost = (.ok generated, after) ∧
      generated.path = .ofText "/dist/AdderService.php" ∧
      after.files.fileAt? [Utf8.encode "adder.go"] =
        adderHost.files.fileAt? [Utf8.encode "adder.go"] ∧
      ∃ again, (generate adderProject).on after = (.ok generated, again) ∧
        SameBesides (some [Utf8.encode "gophp.log", Utf8.encode "log"]) after.files again.files := by
  have succeeds : ((generate adderProject).on adderHost).1.toOption.map (·.path) =
      some (.ofText "/dist/AdderService.php") := by decide +kernel
  rcases ran : (generate adderProject).on adderHost with ⟨error | generated, after⟩
  · simp [ran, Except.toOption] at succeeds
  · have path : generated.path = .ofText "/dist/AdderService.php" := by
      simpa [ran, Except.toOption] using succeeds
    obtain ⟨source, -, -, again⟩ :=
      generate_again (.ofText "/") (by decide +kernel) (by decide +kernel) ran
    have location : destination adderHost.directory adderProject.source =
        [Utf8.encode "adder.go"] := by decide +kernel
    have logged : adderHost.logLocation? =
        some [Utf8.encode "gophp.log", Utf8.encode "log"] := by decide +kernel
    rw [location] at source
    rw [logged] at again
    exact ⟨generated, after, rfl, path, source, again⟩

end Command

end FfiBindings
