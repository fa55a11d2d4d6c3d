import FfiBindings.Proofs.ProjectFile
import FfiBindings.Proofs.Resolution

/-!
# Saving and loading a project file

A configuration can be written as long as its paths are texts, and what is written is read back as that
configuration, whatever its service is called. On a host this holds of the file: what was saved to a
directory is loaded from it. A configuration that cannot be written changes nothing.
-/

namespace FfiBindings

namespace Path

/-- Whether the bytes of a path are those of a text. -/
def IsText (path : Path) : Prop := ∃ text, path = .ofText text

theorem text?_ofText (text : Text) : (ofText text).text? = some text := Utf8.decode?_encode text

theorem isText_of_text? {path : Path} {text : Text} (isText : path.text? = some text) :
    path = .ofText text :=
  congrArg Path.mk (Utf8.encode_of_decode? isText).symm

theorem text?_eq_none_iff {path : Path} : path.text? = none ↔ ¬ path.IsText := by
  constructor
  · rintro none ⟨text, rfl⟩
    simp [text?_ofText] at none
  · intro noText
    exact Option.eq_none_iff_forall_ne_some.mpr fun text isText => noText ⟨text, isText_of_text? isText⟩

end Path

namespace FileSystem

variable {files after : FileSystem} {working : Location} {path : Path}

/-- What was written to a file is read from it. -/
theorem read_of_write {content : Bytes} (done : files.write working path content = .ok after) :
    after.read working path = .ok content := by
  obtain ⟨-, ⟨executable, held⟩, -, opened⟩ := write_changes done
  obtain ⟨above, name, named, noSlash, -, here⟩ := openFile_eq_ok_iff.mp opened
  have isFile : after.kindAt? (name :: above) = some false :=
    kindAt?_eq_false_iff.mpr ⟨content, executable, here ▸ held⟩
  exact read_eq_ok_iff.mpr
    ⟨here ▸ named.locate_eq (.inr ⟨isFile, noSlash⟩), executable, held⟩

theorem readText_of_write {text : Text}
    (done : files.write working path (Utf8.encode text) = .ok after) :
    after.readText working path = .ok text :=
  readText_eq_ok_iff.mpr ⟨_, read_of_write done, Utf8.decode?_encode text⟩

/-- Another file is read as before. -/
theorem readText_of_write_other {content : Bytes} {other : Path} {text : Text}
    (done : files.write working path content = .ok after)
    (apart : destination working path ≠ destination working other)
    (read : files.readText working other = .ok text) : after.readText working other = .ok text := by
  obtain ⟨elsewhere, -, grown, -⟩ := write_changes done
  obtain ⟨held, isRead, decoded⟩ := readText_eq_ok_iff.mp read
  have kept := elsewhere (destination working other) fun same => apart (Option.some.inj same)
  exact readText_eq_ok_iff.mpr ⟨held, grown.read kept isRead, decoded⟩

end FileSystem

namespace Config

variable {config : Config} {directory : Path} {host : Host}

/-- The paths that a project file holds. -/
def paths (config : Config) : List Path :=
  [config.source, config.output.directory, config.output.libraryDirectory]

/-- A configuration is written as the text of its project file, or one of its paths is no text. -/
theorem render_cases (config : Config) :
    (∃ source directory libraryDirectory,
      config = ⟨config.service, .ofText source, ⟨.ofText directory, .ofText libraryDirectory⟩⟩ ∧
      config.render = .ok (fileText config.service source directory libraryDirectory)) ∨
    (∃ path ∈ config.paths, ¬ path.IsText) ∧ config.render = .error .pathNotText := by
  obtain ⟨service, source, directory, libraryDirectory⟩ := config
  unfold render pathText
  cases sourceText : source.text? with
  | none => exact .inr ⟨⟨source, by simp [paths], Path.text?_eq_none_iff.mp sourceText⟩, rfl⟩
  | some sourceName =>
    cases directoryText : directory.text? with
    | none => exact .inr ⟨⟨directory, by simp [paths], Path.text?_eq_none_iff.mp directoryText⟩, rfl⟩
    | some directoryName =>
      cases libraryText : libraryDirectory.text? with
      | none =>
        exact .inr ⟨⟨libraryDirectory, by simp [paths], Path.text?_eq_none_iff.mp libraryText⟩, rfl⟩
      | some libraryName =>
        refine .inl ⟨sourceName, directoryName, libraryName, ?_, rfl⟩
        rw [Path.isText_of_text? sourceText, Path.isText_of_text? directoryText,
          Path.isText_of_text? libraryText]

/-- A configuration is read back from the text that is written for it. -/
theorem parse_render {text : Text} (rendered : config.render = .ok text) :
    parse text = .ok config := by
  rcases config.render_cases with ⟨source, directory, libraryDirectory, shape, written⟩ | ⟨-, failed⟩
  · obtain rfl := Except.ok.inj (rendered.symm.trans written)
    rw [parse_fileText, ← shape]
  · rw [rendered] at failed
    contradiction

/-- Only a path that is no text keeps a configuration from being written. -/
theorem render_eq_error_iff :
    (∃ error, config.render = .error error) ↔ ∃ path ∈ config.paths, ¬ path.IsText := by
  rcases config.render_cases with ⟨source, places, libraries, shape, written⟩ | ⟨noText, failed⟩
  · constructor
    · rintro ⟨error, failed⟩
      rw [written] at failed
      contradiction
    · rintro ⟨path, member, noText⟩
      rw [shape] at member
      simp only [paths, List.mem_cons, List.not_mem_nil, or_false] at member
      rcases member with rfl | rfl | rfl <;> exact absurd ⟨_, rfl⟩ noText
  · exact ⟨fun _ => noText, fun _ => ⟨_, failed⟩⟩

/-- A configuration that cannot be written is not saved, and nothing is touched. -/
theorem saveTo_of_unrenderable {error : WriteError} (failed : config.render = .error error)
    (directory : Path) (host : Host) :
    (config.saveTo directory).on host = (.error (.unrenderable error), host) := by
  unfold saveTo
  rw [failed]
  rfl

/-- What was saved: the text of the configuration was written to the project file. -/
theorem saveTo_eq_ok {path : Path} {after : Host}
    (saved : (config.saveTo directory).on host = (.ok path, after)) :
    path = directory.join fileName ∧ ∃ text files, config.render = .ok text ∧
      host.files.write host.directory path (Utf8.encode text) = .ok files ∧
      after = { host with files } := by
  cases rendered : config.render with
  | error error =>
    rw [saveTo_of_unrenderable rendered] at saved
    simp at saved
  | ok text =>
    unfold saveTo at saved
    rw [rendered] at saved
    obtain ⟨done, between, writing, ended⟩ := Action.on_bind_inv saved
    obtain ⟨files, written, rfl⟩ := Host.writeText_inv (Action.on_orElseThrow_inv writing)
    obtain ⟨isPath, rfl⟩ := Prod.mk.inj ended
    obtain rfl := Except.ok.inj isPath
    exact ⟨rfl, text, files, rfl, written, rfl⟩

/-- Where the text of a configuration can be read, the configuration is loaded. -/
theorem load_of_readText {path : Path} {text : Text} (rendered : config.render = .ok text)
    (read : host.files.readText host.directory path = .ok text) :
    ((load path).on host).1 = .ok config := by
  obtain ⟨emissions, loading⟩ := load_on path host
  rw [loading]
  exact loaded_eq_ok_iff.mpr ⟨text, read, parse_render rendered⟩

/-- Saving and loading. Writing a configuration fails just where one of its paths is no text, and then
saving it fails and leaves the host as it was. Otherwise the text is read back as the configuration;
and wherever saving to a directory succeeds, loading from it gives the configuration. -/
theorem loadFrom_saveTo (config : Config) (directory : Path) (host : Host) :
    ((∃ error, config.render = .error error) ↔ ∃ path ∈ config.paths, ¬ path.IsText) ∧
    (∀ error, config.render = .error error →
      (config.saveTo directory).on host = (.error (.unrenderable error), host)) ∧
    (∀ text, config.render = .ok text → parse text = .ok config) ∧
    ∀ path after, (config.saveTo directory).on host = (.ok path, after) →
      ((loadFrom directory).on after).1 = .ok config := by
  refine ⟨render_eq_error_iff, fun error failed => saveTo_of_unrenderable failed directory host,
    fun text rendered => parse_render rendered, fun path after saved => ?_⟩
  obtain ⟨rfl, text, files, rendered, written, rfl⟩ := saveTo_eq_ok saved
  exact load_of_readText rendered (FileSystem.readText_of_write written)

/-- A configuration whose texts would mean something else if they were written as they are. -/
def guardedConfig : Config :=
  ⟨"no\n# 12: it's", .ofText "0x1F", ⟨.ofText " \ta", .ofText "- ~"⟩⟩

/-- A configuration whose source has no text. -/
def unwritableConfig : Config := .new "adder" ⟨[0xFF]⟩

/-- A host with nothing but an old project file and a log. -/
def plainHost : Host where
  files := ⟨[([Utf8.encode ".gophp.yaml"], .file (Utf8.encode "service: adder") false)]⟩
  directory := []
  environment := []
  clock := ⟨"2024-05-01", "12:00", "3"⟩
  isColored := false
  input := []
  log := ⟨0, some (.ofText "/gophp.log")⟩
  emissions := []
  launches := []

/-- The first example is saved over the old file and loaded again; the second leaves the file. -/
theorem loadFrom_saveTo_guarded :
    (∃ path after, (guardedConfig.saveTo (.ofText "/")).on plainHost = (.ok path, after) ∧
      ((loadFrom (.ofText "/")).on after).1 = .ok guardedConfig) ∧
    (∃ text, guardedConfig.render = .ok text ∧ parse text = .ok guardedConfig) ∧
    unwritableConfig.render = .error .pathNotText ∧
    (unwritableConfig.saveTo (.ofText "/")).on plainHost =
      (.error (.unrenderable .pathNotText), plainHost) := by
  obtain ⟨-, -, readBack, loads⟩ := loadFrom_saveTo guardedConfig (.ofText "/") plainHost
  obtain ⟨-, untouched, -, -⟩ := loadFrom_saveTo unwritableConfig (.ofText "/") plainHost
  have succeeds : ((guardedConfig.saveTo (.ofText "/")).on plainHost).1.isOk = true := by
    decide +kernel
  have renders : guardedConfig.render.isOk = true := by decide +kernel
  have fails : unwritableConfig.render = .error .pathNotText := by decide +kernel
  refine ⟨?_, ?_, fails, untouched _ fails⟩
  · rcases saved : (guardedConfig.saveTo (.ofText "/")).on plainHost with ⟨error | path, after⟩
    · rw [saved] at succeeds
      contradiction
    · exact ⟨path, after, rfl, loads path after saved⟩
  · cases rendered : guardedConfig.render with
    | error error =>
      rw [rendered] at renders
      contradiction
    | ok text => exact ⟨text, rfl, readBack text rendered⟩

end Config

end FfiBindings
