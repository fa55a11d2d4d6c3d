import FfiBindings.Proofs.ClassFiles

/-!
# What a run of the generator leaves

The generator reads its whole source before it touches any file, and the last thing that it changes is
the file of the service class. So a run that cannot extract leaves the files as they were, and one
that fails later leaves directories on the way to the places of the project, and nothing else unless
files have to stay within a size. Then the file of the class is already open when it turns out that the
class does not fit, and so it has lost what it held and is left with the start of the class. A run that
succeeds changes only that file, which then holds the class of all functions of the source. None of
this is about the log file, which every run may add to.
-/

namespace FfiBindings

open FileSystem

namespace Service

variable {functions : List Source.ExportedFunction} {base : Text} {directory : Path}
  {host after : Host}

/-- The file of a service class holds a content, and besides nothing is new but directories on the way
to it. -/
structure Puts (base : Text) (directory : Path) (content : Bytes) (host after : Host) : Prop where
  held : ∃ executable, after.files.entryAt? (destination host.directory (classPath base directory)) =
    some (.file content executable)
  elsewhere : ∀ location, location ≠ destination host.directory (classPath base directory) →
    MayMake (Passes host.directory directory) host.files after.files location

/-- Writing to that file once its directory is there changes nothing else. -/
theorem puts_of_write {content : Bytes} {made files : FileSystem} {emissions : List Emission}
    (prepared : host.files.makeDirectories host.directory directory = (made, .ok ()))
    (stored : made.write host.directory (classPath base directory) content = .ok files) :
    Puts base directory content host { host with files, emissions } := by
  obtain ⟨elsewhere, held, -⟩ := write_changes stored
  have makes := (makeDirectories_changes host.files host.directory directory).1
  rw [prepared] at makes
  refine ⟨held, fun location other => ?_⟩
  exact (makes location).trans (.inl (elsewhere location fun same => other (Option.some.inj same).symm))

/-- Writing to it takes no entry away. -/
theorem grows_of_write {content : Bytes} {made files : FileSystem}
    (prepared : host.files.makeDirectories host.directory directory = (made, .ok ()))
    (stored : made.write host.directory (classPath base directory) content = .ok files) :
    Grows host.files files := by
  have makes := (makeDirectories_changes host.files host.directory directory).1.grows
  rw [prepared] at makes
  obtain ⟨-, -, grown, -⟩ := write_changes stored
  exact makes.trans grown

/-- A run that fails to write a service class makes some directories on the way at most, or leaves in
its file as much of the class as fits, which is not all of it. -/
theorem Saves.makes {error : FileError}
    (saving : Saves functions base directory host (.error error) after) :
    OnlyMakes (Passes host.directory directory) host.files after.files ∨
      error = .unwritable (classPath base directory) .tooLarge ∧
        host.held (classContent functions base) ≠ classContent functions base ∧
        Puts base directory (host.held (classContent functions base)) host after := by
  have makes := (makeDirectories_changes host.files host.directory directory).1
  cases saving with
  | blank isBlank => exact .inl (.refl host.files)
  | noDirectory failed => exact .inl (by simpa only [failed] using makes)
  | unwritable prepared refused => exact .inl (by simpa only [prepared] using makes)
  | cut prepared stored exceeds => exact .inr ⟨rfl, exceeds, puts_of_write prepared stored⟩

/-- A run that writes a service class makes the directories for it and writes its file, which then
holds it. -/
theorem Saves.writes {path : Path}
    (saving : Saves functions base directory host (.ok path) after) :
    path = classPath base directory ∧
      Puts base directory (classContent functions base) host after := by
  cases saving with
  | written named prepared stored => exact ⟨rfl, puts_of_write prepared stored⟩

/-- Whatever comes of it, every entry stays one of its kind and no setting changes. -/
theorem Saves.grows {result : Except FileError Path}
    (saving : Saves functions base directory host result after) :
    host.SameSetting after ∧ Grows host.files after.files := by
  have makes := (makeDirectories_changes host.files host.directory directory).1.grows
  cases saving with
  | blank isBlank => exact ⟨rfl, .refl _⟩
  | noDirectory failed => exact ⟨rfl, by simpa only [failed] using makes⟩
  | unwritable prepared refused => exact ⟨rfl, by simpa only [prepared] using makes⟩
  | cut prepared stored => exact ⟨rfl, grows_of_write prepared stored⟩
  | written named prepared stored => exact ⟨rfl, grows_of_write prepared stored⟩

end Service

namespace Command

variable {project : Project} {host announced told ready : Host} {base : Text}
  {extraction : Source.Extraction} {made : FileSystem}

/-- The locations on the way to the places of a project. -/
def OnTheWay (project : Project) (host : Host) (location : Location) : Prop :=
  Passes host.directory project.libraryDirectory location ∨
    Passes host.directory project.outputDirectory location

/-- What is known of a run that has come to fill the file of the service class with a content. -/
structure Fills (project : Project) (host : Host) (extraction : Source.Extraction)
    (base source : Text) (content : Bytes) (after : FileSystem) : Prop where
  named : project.source.baseName? = some base
  /-- The text is that of the source, unless the source is the log that the run itself adds to. -/
  read : host.logLocation? ≠ some (destination host.directory project.source) →
    host.files.readText host.directory project.source = .ok source
  /-- All of the source is extracted. -/
  extracted : Source.extract source = .ok extraction
  /-- The file lies in the output directory itself. -/
  inside : destination host.directory (Service.classPath base project.outputDirectory) =
    Utf8.encode (Service.Names.ofBaseName base).fileName ::
      destination host.directory project.outputDirectory
  written : ∃ executable,
    after.entryAt? (destination host.directory (Service.classPath base project.outputDirectory)) =
      some (.file content executable)
  elsewhere : ∀ location, host.logLocation? ≠ some location →
    location ≠ destination host.directory (Service.classPath base project.outputDirectory) →
      MayMake (OnTheWay project host) host.files after location

/-- What is known of a run that succeeds: the file holds the whole class. -/
structure Completed (project : Project) (host : Host) (generated : Generated) (base source : Text)
    (after : FileSystem) : Prop extends
    Fills project host generated.extraction base source
      (Service.classContent generated.extraction.functions base) after where
  path : generated.path = Service.classPath base project.outputDirectory

/-- What is known of a run whose class does not fit: the file holds the start of it, as much as files
may hold. -/
structure Curtailed (project : Project) (host : Host) (extraction : Source.Extraction)
    (base source : Text) (limit : Nat) (after : FileSystem) : Prop extends
    Fills project host extraction base source
      ((Service.classContent extraction.functions base).take limit) after where
  limited : host.fileLimit = some limit
  exceeds : limit < (Service.classContent extraction.functions base).length

/-- What a run leaves, by its result. -/
def Leaves (project : Project) (host : Host) (after : FileSystem) :
    Except ProjectError Generated → Prop
  | .error (.invalidSource _) | .error (.source _) =>
      SameBesides host.logLocation? host.files after
  | .error (.noDirectory _ _) =>
      ∀ location, host.logLocation? ≠ some location →
        MayMake (OnTheWay project host) host.files after location
  | .error (.service failure) =>
      (∀ location, host.logLocation? ≠ some location →
        MayMake (OnTheWay project host) host.files after location) ∨
      ∃ extraction base source limit,
        failure = .unwritable (Service.classPath base project.outputDirectory) .tooLarge ∧
          Curtailed project host extraction base source limit after
  | .error _ => False
  | .ok generated => ∃ base source, Completed project host generated base source after

/-- Up to the making of the library directory only directories on the way to it are made. -/
theorem Extracted.mayMake (extracted : Extracted project host base extraction announced told)
    {result : Except Fault Unit}
    (prepared : told.files.makeDirectories told.directory project.libraryDirectory =
      (made, result)) {location : Location} (offLog : host.logLocation? ≠ some location) :
    MayMake (OnTheWay project host) host.files made location := by
  have logged := extracted.announcing.trans extracted.telling
  have makes := (makeDirectories_changes told.files told.directory project.libraryDirectory).1
  rw [prepared, logged.setting.directory] at makes
  have same : MayMake (OnTheWay project host) host.files told.files location :=
    .inl (logged.elsewhere location offLog)
  exact same.trans (makes.mono (fun _ => .inl) location)

/-- Before the class is written, all settings are still those of the start. -/
theorem Extracted.setting (extracted : Extracted project host base extraction announced told)
    (readying : Host.LogsOnly { told with files := made } ready) : host.SameSetting ready := by
  have remade : told.SameSetting { told with files := made } := rfl
  exact ((extracted.announcing.trans extracted.telling).setting.trans remade).trans readying.setting

/-- Up to the writing of the class no more than these directories are made. -/
theorem Extracted.mayMake_ready
    (extracted : Extracted project host base extraction announced told)
    (prepared : told.files.makeDirectories told.directory project.libraryDirectory =
      (made, .ok ()))
    (readying : Host.LogsOnly { told with files := made } ready) {location : Location}
    (offLog : host.logLocation? ≠ some location) :
    MayMake (OnTheWay project host) host.files ready.files location := by
  have logged := extracted.announcing.trans extracted.telling
  have elsewhere := readying.elsewhere location (logged.setting.logLocation? ▸ offLog)
  exact (extracted.mayMake prepared offLog).trans (.inl elsewhere)

/-- A run that has extracted the source fills the file of the class as far as it gets. -/
theorem Extracted.fills (extracted : Extracted project host base extraction announced told)
    (prepared : told.files.makeDirectories told.directory project.libraryDirectory =
      (made, .ok ()))
    (readying : Host.LogsOnly { told with files := made } ready) {content : Bytes} {after : Host}
    (puts : Service.Puts base project.outputDirectory content ready after) :
    ∃ source, Fills project host extraction base source content after.files := by
  obtain ⟨written, elsewhere⟩ := puts
  rw [(extracted.setting readying).directory] at written elsewhere
  obtain ⟨source, read, whole⟩ := Source.extractionOf_eq_ok_iff.mp extracted.read
  exact ⟨source,
    { named := extracted.named
      read := fun apart => (extracted.announcing.readText_eq_ok_iff apart).mp read
      extracted := whole
      inside := Service.destination_classPath _ (Path.slash_notMem_baseName extracted.named)
      written
      elsewhere := fun location offLog other =>
        (extracted.mayMake_ready prepared readying offLog).trans
          ((elsewhere location other).imp_right fun new => ⟨new.1, .inr new.2⟩) }⟩

theorem Generates.leaves {result : Except ProjectError Generated} {after : Host}
    (ran : Generates project host result after) : Leaves project host after.files result := by
  cases ran with
  | nameless unnamed => exact fun location offLog => rfl
  | unextracted announcing failed reporting => exact (announcing.trans reporting).elsewhere
  | noLibraryDirectory extracted failed => exact fun location => extracted.mayMake failed
  | @unsaved base extraction announced told ready _ made error extracted prepared readying failed =>
    have setting := extracted.setting readying
    rcases failed.makes with makes | ⟨isTooLarge, exceeds, puts⟩
    · left
      intro location offLog
      rw [setting.directory] at makes
      exact (extracted.mayMake_ready prepared readying offLog).trans
        (makes.mono (fun _ => .inr) location)
    · right
      obtain ⟨limit, limited, short, held⟩ := Host.limit_of_held_ne exceeds
      obtain ⟨source, fills⟩ := extracted.fills prepared readying (held ▸ puts)
      exact ⟨extraction, base, source, limit, isTooLarge,
        { fills with limited := setting.fileLimit ▸ limited, exceeds := short }⟩
  | @saved base extraction _ _ _ _ _ path extracted prepared readying stored =>
    obtain ⟨isPath, puts⟩ := stored.writes
    obtain ⟨source, fills⟩ := extracted.fills prepared readying puts
    exact ⟨base, source, { fills with path := isPath }⟩

/-- Up to the writing of the class nothing is lost. -/
theorem Extracted.grows (extracted : Extracted project host base extraction announced told)
    {result : Except Fault Unit}
    (prepared : told.files.makeDirectories told.directory project.libraryDirectory =
      (made, result)) : Grows host.files made := by
  have makes := (makeDirectories_changes told.files told.directory project.libraryDirectory).1.grows
  rw [prepared] at makes
  exact (extracted.announcing.trans extracted.telling).grown.trans makes

/-- Whatever comes of a run, every entry stays one of its kind and no setting changes. -/
theorem Generates.grows {result : Except ProjectError Generated} {after : Host}
    (ran : Generates project host result after) :
    host.SameSetting after ∧ Grows host.files after.files := by
  cases ran with
  | nameless unnamed => exact ⟨rfl, .refl _⟩
  | unextracted announcing failed reporting =>
    have logged := announcing.trans reporting
    exact ⟨logged.setting, logged.grown⟩
  | noLibraryDirectory extracted failed =>
    exact ⟨extracted.setting (.refl _), extracted.grows failed⟩
  | unsaved extracted prepared readying failed =>
    obtain ⟨setting, grown⟩ := failed.grows
    exact ⟨(extracted.setting readying).trans setting,
      ((extracted.grows prepared).trans readying.grown).trans grown⟩
  | saved extracted prepared readying stored =>
    obtain ⟨setting, grown⟩ := stored.grows
    exact ⟨(extracted.setting readying).trans setting,
      ((extracted.grows prepared).trans readying.grown).trans grown⟩

/-- A run that cannot extract leaves all files as they were. One that fails later has made directories on
the way to the places of the project, if anything, unless files have to stay within a size and the class
is larger. One that succeeds has written the class of the whole extraction to its file in the output
directory, and has done nothing else but make such directories. -/
theorem generate_leaves (project : Project) (host : Host) :
    Leaves project host ((generate project).on host).2.files ((generate project).on host).1 :=
  (generates project host).leaves

/-- A project with its source, its project file and the directory of a log at the root. -/
def adderHost : Host where
  files := ⟨[([Utf8.encode "adder.go"], .file (Utf8.encode "//export Add\nfunc Add(a int) int") false),
    ([Utf8.encode ".gophp.yaml"], .file (Utf8.encode "service: adder\nsource: adder.go\n") false),
    ([Utf8.encode "log"], .directory)]⟩
  directory := []
  environment := []
  clock := ⟨"2024-05-01", "12:00", "3"⟩
  isColored := false
  input := []
  log := ⟨0, some (.ofText "/log/gophp.log")⟩
  emissions := []
  launches := []

/-- The project that the project file describes. -/
def adderProject : Project :=
  Project.place (.ofText "/") (.ofText "adder.go") "adder" .default

/-- The same with a source that exports a function twice. -/
def twiceHost : Host :=
  { adderHost with
    files := ⟨[([Utf8.encode "adder.go"],
      .file (Utf8.encode "//export Add\nfunc Add()\n//export Add\nfunc Add()") false)]⟩ }

/-- The same with a file in the way of the directories. -/
def blockedHost : Host :=
  { adderHost with
    files := ⟨adderHost.files.entries ++ [([Utf8.encode "dist"], .file [] false)]⟩ }

/-- The same with an older class, on a host on which files have to stay empty. -/
def fullHost : Host :=
  { adderHost with
    files := ⟨adderHost.files.entries ++ [([Utf8.encode "dist"], .directory),
      ([Utf8.encode "AdderService.php", Utf8.encode "dist"],
        .file (Utf8.encode "<?php\n// older\n") false)]⟩
    fileLimit := some 0 }

/-- The location of the older class. -/
def olderClass : Location := [Utf8.encode "AdderService.php", Utf8.encode "dist"]

/-- There the older class is lost. -/
theorem fullHost_emptied :
    ((generate adderProject).on fullHost).1 =
        .error (.service (.unwritable (.ofText "/dist/AdderService.php") .tooLarge)) ∧
      fullHost.logLocation? ≠ some olderClass ∧
      fullHost.files.entryAt? olderClass = some (.file (Utf8.encode "<?php\n// older\n") false) ∧
      ((generate adderProject).on fullHost).2.files.entryAt? olderClass = some (.file [] false) := by
  decide +kernel

/-- The example is generated; where its source exports a function twice everything is left as it was; where
a file is in the way no directory is made; and where the class does not fit its file is left with what
does. -/
theorem generate_leaves_adder :
    (∃ generated base source, ((generate adderProject).on adderHost).1 = .ok generated ∧
      Completed adderProject adderHost generated base source
        ((generate adderProject).on adderHost).2.files) ∧
    (((generate adderProject).on twiceHost).1 =
        .error (.source (.invalid (.duplicateExport "Add" 2 4))) ∧
      SameBesides twiceHost.logLocation? twiceHost.files
        ((generate adderProject).on twiceHost).2.files) ∧
    (((generate adderProject).on blockedHost).1 =
        .error (.noDirectory (.ofText "/dist/lib") .notDirectory) ∧
      ∀ location, blockedHost.logLocation? ≠ some location →
        MayMake (OnTheWay adderProject blockedHost) blockedHost.files
          ((generate adderProject).on blockedHost).2.files location) ∧
    ((generate adderProject).on fullHost).1 =
        .error (.service (.unwritable (.ofText "/dist/AdderService.php") .tooLarge)) ∧
      ∃ extraction base source, Curtailed adderProject fullHost extraction base source 0
        ((generate adderProject).on fullHost).2.files := by
  refine ⟨?_, ?_, ?_, ?_⟩
  · have left := generate_leaves adderProject adderHost
    have succeeds : ((generate adderProject).on adderHost).1.isOk = true := by decide +kernel
    cases ended : ((generate adderProject).on adderHost).1 with
    | error error =>
      rw [ended] at succeeds
      contradiction
    | ok generated =>
      rw [ended] at left
      obtain ⟨base, source, completed⟩ := left
      exact ⟨generated, base, source, rfl, completed⟩
  · have left := generate_leaves adderProject twiceHost
    have ended : ((generate adderProject).on twiceHost).1 =
        .error (.source (.invalid (.duplicateExport "Add" 2 4))) := by decide +kernel
    rw [ended] at left
    exact ⟨ended, left⟩
  · have left := generate_leaves adderProject blockedHost
    have ended : ((generate adderProject).on blockedHost).1 =
        .error (.noDirectory (.ofText "/dist/lib") .notDirectory) := by decide +kernel
    rw [ended] at left
    exact ⟨ended, left⟩
  · have left := generate_leaves adderProject fullHost
    obtain ⟨ended, offLog, before, after⟩ := fullHost_emptied
    rw [ended] at left
    rcases left with untouched | ⟨extraction, base, source, limit, -, curtailed⟩
    · have kept := (untouched olderClass offLog).kept before
      rw [after] at kept
      exact absurd kept (by decide)
    · obtain rfl : 0 = limit := Option.some.inj curtailed.limited
      exact ⟨ended, extraction, base, source, curtailed⟩

/-- A run that fails to write may do more than make directories: there it has emptied the older class. -/
theorem not_onlyMakes_full :
    ((generate adderProject).on fullHost).1 =
        .error (.service (.unwritable (.ofText "/dist/AdderService.php") .tooLarge)) ∧
      ¬ ∀ location, fullHost.logLocation? ≠ some location →
        MayMake (OnTheWay adderProject fullHost) fullHost.files
          ((generate adderProject).on fullHost).2.files location := by
  obtain ⟨ended, offLog, before, after⟩ := fullHost_emptied
  refine ⟨ended, fun untouched => ?_⟩
  have kept := (untouched olderClass offLog).kept before
  rw [after] at kept
  exact absurd kept (by decide)

end Command

end FfiBindings
