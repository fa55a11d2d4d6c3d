import FfiBindings.Command.Init
import FfiBindings.Proofs.FileNames
import FfiBindings.Proofs.Saving

/-!
# A service that was just started

Starting a service writes a source that bears its name and a project file that names both. The project
file and the source on the command line therefore lead to the same project, whatever the name is: the
one through the text that was written and is read back, the other through the stem of the file. Only the
log could come between; its file bears a name of its own, and so is neither of the two.
-/

namespace FfiBindings

open FileSystem (destination isName)

/-! ### Names of logs -/

/-- The file of a log, if there is one, bears the name that logs are started under. -/
def Host.NamesLog (host : Host) : Prop :=
  ∀ file ∈ host.log.file, ∃ directory : Path, file = directory.join Log.fileName

namespace Host.NamesLog

variable {host after : Host}

theorem of_setting (named : host.NamesLog) (setting : host.SameSetting after) : after.NamesLog := by
  rw [show after = _ from setting]
  exact named

/-- Starting a log gives its file that name, or leaves things as they were. -/
theorem startIn (named : host.NamesLog) (verbosity : Nat) (directory : Path) :
    ((Log.startIn verbosity directory).on host).2.NamesLog := by
  unfold Log.startIn
  rw [Action.on_modify_bind]
  generalize ready : ({ host with log := { host.log with verbosity } } : Host) = started
  have startedNamed : started.NamesLog := ready ▸ named
  have prepared := Host.makeDirectories_on directory started
  cases made : (started.files.makeDirectories started.directory directory).2 with
  | error fault =>
    rw [made] at prepared
    rw [Action.on_bind_of_error prepared]
    exact startedNamed
  | ok done =>
    rw [made] at prepared
    rw [Action.on_bind_of_ok prepared, Action.on_modify]
    intro file isFile
    refine ⟨directory, ?_⟩
    dsimp only at isFile
    split at isFile <;> exact (Option.some.inj isFile).symm

/-- The log is not a file of another name. -/
theorem apart (named : host.NamesLog) {name : Bytes} (isOther : isName name = true)
    (other : name ≠ Log.fileName.bytes) (directory : Path) :
    host.logLocation? ≠ some (destination host.directory (directory.join ⟨name⟩)) := by
  intro same
  obtain ⟨file, isFile, here⟩ := Option.map_eq_some_iff.mp same
  obtain ⟨place, rfl⟩ := named file isFile
  have logName : isName Log.fileName.bytes = true := by decide
  rw [show Log.fileName = ⟨Log.fileName.bytes⟩ from rfl, Path.destination_join_name logName,
    Path.destination_join_name isOther] at here
  exact other (List.cons.inj here).1.symm

end Host.NamesLog

namespace Command

open FileSystem

variable {name : Text} {directory : Path} {host after : Host} {made : Scaffold}

/-! ### Names of sources -/

/-- The name of the source file, in bytes. -/
theorem encode_sourceFileName (name : Text) :
    Utf8.encode (sourceFileName name) = Utf8.encode name ++ Path.dot :: Utf8.encode "go" := by
  rw [sourceFileName, Utf8.encode, List.flatMap_append]
  rfl

theorem isServiceName_inv (accepted : isServiceName name = true) : name ≠ [] ∧ '/' ∉ name := by
  obtain ⟨⟨named, whole⟩, -⟩ := by simpa [isServiceName] using accepted
  exact ⟨fun none => named (by rw [none]; rfl), whole⟩

/-- The file of a source lies in its directory itself. -/
theorem isName_sourceFileName (accepted : isServiceName name = true) :
    isName (Utf8.encode (sourceFileName name)) = true := by
  obtain ⟨-, whole⟩ := isServiceName_inv accepted
  rw [encode_sourceFileName]
  exact Path.isName_append (Nat.le_add_left 2 _) (Utf8.slash_notMem_encode whole) (by decide)

/-- A source is not called what another kind of file is called. -/
theorem sourceFileName_ne {other : Bytes} (differs : other.getLast? ≠ some 0x6F) :
    Utf8.encode (sourceFileName name) ≠ other := by
  rintro rfl
  have ending : (Path.dot :: Utf8.encode "go").getLast? = some 0x6F := by decide
  rw [encode_sourceFileName, List.getLast?_append, ending, Option.some_or] at differs
  exact differs rfl

/-- A source leads back to the name of its service. -/
theorem baseName?_of_source {path : Path} (accepted : isServiceName name = true)
    (isSource : path.fileName? = some (Utf8.encode (sourceFileName name))) :
    path.baseName? = some name := by
  have single : Path.dot ∉ Utf8.encode "go" := by decide
  rw [encode_sourceFileName] at isSource
  exact Path.baseName?_of_fileName? (isServiceName_inv accepted).1 single isSource

/-! ### Starting a service -/

/-- What was done where a service was started: the source was written and logged, and so was the project
file. -/
structure Starts (name : Text) (directory : Path) (host : Host) (made : Scaffold) (after : Host) :
    Prop where
  isSource : made.source = directory.join (.ofText (sourceFileName name))
  steps : ∃ sourced told saved,
    host.files.write host.directory made.source (Utf8.encode (template (sourceFileName name))) =
      .ok sourced ∧
    Host.LogsOnly { host with files := sourced } told ∧
    ((Config.new name (.ofText (sourceFileName name))).saveTo directory).on told =
      (.ok made.config, saved) ∧
    saved.LogsOnly after

theorem starts_of_scaffold (done : (scaffold name directory).on host = (.ok made, after)) :
    Starts name directory host made after := by
  unfold scaffold at done
  dsimp only at done
  obtain ⟨_, _, writing, done⟩ := Action.on_bind_inv done
  obtain ⟨files, sourced, rfl⟩ := Host.writeText_inv (Action.on_orElseThrow_inv writing)
  rw [Action.on_lift_bind] at done
  obtain ⟨config, saved, saving, done⟩ := Action.on_bind_inv done
  rw [Action.on_lift_bind] at done
  obtain ⟨isMade, rfl⟩ := Prod.mk.inj done
  obtain rfl := Except.ok.inj isMade
  exact ⟨rfl, files, _, saved, sourced, Host.logsOnly_write _ _, Action.on_orElseThrow_inv saving,
    Host.logsOnly_write _ _⟩

/-- Where a service was started, its project file is read as it was written, and so is its source. -/
theorem Starts.reads (starts : Starts name directory host made after)
    (accepted : isServiceName name = true) (named : host.NamesLog) :
    Config.loaded (directory.join Config.fileName)
        (after.files.readText after.directory (directory.join Config.fileName)) =
      .ok (.new name (.ofText (sourceFileName name))) ∧
    after.files.readText after.directory made.source = .ok (template (sourceFileName name)) := by
  obtain ⟨isSource, sourced, told, saved, written, telling, saving, closing⟩ := starts
  obtain ⟨isConfig, text, files, rendered, configured, rfl⟩ := Config.saveTo_eq_ok saving
  have sourceName := isName_sourceFileName accepted
  have configName : isName Config.fileName.bytes = true := by decide
  have toldSetting : host.SameSetting told := telling.setting
  have savedNamed : Host.NamesLog { told with files } := named.of_setting (toldSetting.trans rfl)
  constructor
  · have offConfig := savedNamed.apart configName (by decide) directory
    rw [isConfig] at configured
    exact Config.loaded_eq_ok_iff.mpr ⟨text, (closing.readText_eq_ok_iff offConfig).mpr
      (readText_of_write configured), Config.parse_render rendered⟩
  · rw [isSource] at written ⊢
    have offSource := fun host (named : Host.NamesLog host) =>
      named.apart sourceName (sourceFileName_ne (by decide)) directory
    have inTold := (telling.readText_eq_ok_iff (offSource _ named)).mpr (readText_of_write written)
    have apart : destination told.directory made.config ≠
        destination told.directory (directory.join (.ofText (sourceFileName name))) := by
      rw [isConfig, show Config.fileName = ⟨Config.fileName.bytes⟩ from rfl,
        Path.destination_join_name configName, Path.ofText, Path.destination_join_name sourceName]
      exact fun same => sourceFileName_ne (by decide) (List.cons.inj same).1.symm
    exact (closing.readText_eq_ok_iff (offSource _ savedNamed)).mpr
      (readText_of_write_other configured apart inTold)

/-- After a service was started, the project file and the source on the command line lead to the same
project: that of the name, with the source that was written, whose base name is the name of the service,
and with the default places. The source holds what a new service starts from. -/
theorem resolve_of_scaffold (accepted : isServiceName name = true) (named : host.NamesLog)
    (done : (scaffold name directory).on host = (.ok made, after)) :
    ∃ project : Project,
      ((Project.resolve none directory).on after).1 = .ok project ∧
      ((Project.resolve (some (.ofText (sourceFileName name))) directory).on after).1 = .ok project ∧
      project.service = name ∧
      project.source = directory.join (.ofText (sourceFileName name)) ∧
      project.source = made.source ∧
      after.files.readText after.directory project.source = .ok (template (sourceFileName name)) ∧
      project.baseName = .ok name ∧
      project.outputDirectory = directory.join OutputPlaces.default.directory ∧
      project.libraryDirectory = directory.join OutputPlaces.default.libraryDirectory := by
  have starts := starts_of_scaffold done
  obtain ⟨loaded, source⟩ := starts.reads accepted named
  have sourceName := isName_sourceFileName accepted
  have base : (Path.ofText (sourceFileName name)).baseName? = some name :=
    baseName?_of_source accepted (Path.fileName?_name sourceName)
  have joinedBase : (directory.join (.ofText (sourceFileName name))).baseName? = some name :=
    baseName?_of_source accepted (Path.fileName?_join sourceName directory)
  have resolves (given : Option Path) : ((Project.resolve given directory).on after).1 =
      Project.resolved directory given (.ok (.new name (.ofText (sourceFileName name)))) := by
    obtain ⟨emissions, resolving⟩ := Project.resolve_on given directory after
    rw [resolving, loaded]
  rw [starts.isSource] at source
  refine ⟨.place directory (.ofText (sourceFileName name)) name .default, resolves none, ?_, rfl, rfl,
    starts.isSource.symm, source, ?_, rfl, rfl⟩
  · rw [resolves, Project.resolved, base]
    rfl
  · rw [Project.baseName, Project.place, joinedBase]

/-- A service is started under a name that is all dots and marks, over an old project file. -/
theorem resolve_of_scaffold_marks :
    isServiceName "..: #'" = true ∧ Config.plainHost.NamesLog ∧
    ∃ made after project, (scaffold "..: #'" (.ofText "/")).on Config.plainHost = (.ok made, after) ∧
      ((Project.resolve none (.ofText "/")).on after).1 = .ok project ∧
      ((Project.resolve (some (.ofText "..: #'.go")) (.ofText "/")).on after).1 = .ok project ∧
      project.service = "..: #'" ∧ project.source = .ofText "/..: #'.go" ∧
      project.baseName = .ok "..: #'" ∧ project.outputDirectory = .ofText "/dist" ∧
      project.libraryDirectory = .ofText "/dist/lib" := by
  have accepted : isServiceName "..: #'" = true := by decide +kernel
  have named : Config.plainHost.NamesLog := fun file isFile =>
    ⟨.ofText "/", by rw [← Option.some.inj isFile]; decide⟩
  have succeeds : ((scaffold "..: #'" (.ofText "/")).on Config.plainHost).1.isOk = true := by
    decide +kernel
  rcases done : (scaffold "..: #'" (.ofText "/")).on Config.plainHost with ⟨error | made, after⟩
  · rw [done] at succeeds
    contradiction
  · obtain ⟨project, fromFile, fromSource, service, source, -, -, base, output, library⟩ :=
      resolve_of_scaffold accepted named done
    exact ⟨accepted, named, made, after, project, rfl, fromFile, fromSource, service,
      source.trans (by decide), base, output.trans (by decide), library.trans (by decide)⟩

end Command

end FfiBindings
