import FfiBindings.Config.File
import FfiBindings.Source.File
import FfiBindings.Service.File
import FfiBindings.Log

/-!
# Projects

What a command works on: the source, the name of the service and the places for its results. A
source that is named on the command line goes before the one in the project file, which then only
contributes the places, if it can be loaded at all.
-/

namespace FfiBindings

/-- A source, its service and the places for what is made of it. -/
structure Project where
  source : Path
  /-- The name that the shared library is built under. -/
  service : Text
  /-- The directory of the service class. -/
  outputDirectory : Path
  /-- The directory of the shared library and its header. -/
  libraryDirectory : Path
  deriving Repr, DecidableEq

/-- Why the toolchain cannot be found. -/
inductive ToolchainError where
  | notOnSearchPath
  /-- The file that the environment names does not exist. -/
  | missingOverride (path : Path)
  deriving Repr, DecidableEq

/-- The environment variable that names the toolchain. -/
def toolchainVariable : Text := "GOPHP_GO"

/-- The error in words. -/
def ToolchainError.message : ToolchainError → Text
  | .notOnSearchPath =>
      "Go toolchain not found on PATH (install Go or set " ++ toolchainVariable ++ ")"
  | .missingOverride path => "Go toolchain override does not exist: " ++ path.display

/-- Why a command cannot do its work on a project. -/
inductive ProjectError where
  | noSource (error : Config.FileError)
  | invalidSource (path : Path)
  /-- The build ended with another code than zero, or without a code by a signal. -/
  | buildFailed (exit : Log.ExitCode)
  | noDirectory (path : Path) (fault : Fault)
  | config (error : Config.FileError)
  | toolchain (error : ToolchainError)
  | source (error : Source.FileError)
  | service (error : Service.FileError)
  | io (fault : Fault)
  deriving Repr, DecidableEq

/-- The error in words. -/
def ProjectError.message : ProjectError → Text
  | .noSource error => "No source file given and no usable .gophp.yaml found: " ++ error.message
  | .invalidSource path => "Cannot derive a service name from " ++ path.display
  | .buildFailed (some code) => "go build exited with status " ++ Text.decimal code
  | .buildFailed none => "go build exited with a signal"
  | .noDirectory path fault =>
      "Failed to create directory " ++ path.display ++ ": " ++ fault.message
  | .config error => error.message
  | .toolchain error => error.message
  | .source error => error.message
  | .service error => error.message
  | .io fault => "IO error: " ++ fault.message

/-- What caused the error, from the nearest cause to the first. -/
def ProjectError.causes : ProjectError → List Text
  | .noSource error => error.message :: error.causes
  | .invalidSource _ => []
  | .buildFailed _ => []
  | .noDirectory _ fault => [fault.message]
  | .config error => error.causes
  | .toolchain _ => []
  | .source error => error.causes
  | .service error => error.causes
  | .io fault => [fault.message]

namespace Project

/-- The part of the program that resolves projects, as it names itself in events. -/
def target : Text := "gophpffi::commands"

/-- The base name of the source, which names the service class. -/
def baseName (project : Project) : Except ProjectError Text :=
  match project.source.baseName? with
  | some base => .ok base
  | none => .error (.invalidSource project.source)

/-- A project in a directory, from a source, its service and the output places. -/
def place (directory source : Path) (service : Text) (output : OutputPlaces) : Project :=
  { source := directory.join source
    service
    outputDirectory := directory.join output.directory
    libraryDirectory := directory.join output.libraryDirectory }

/-- The project in a directory, from a source on the command line or from the project file. -/
def resolve (source : Option Path) (directory : Path) : Action ProjectError Project := do
  let config ← (Config.loadFrom directory).run
  match source, config with
  | some source, config =>
      let output ←
        match config with
        | .ok config => pure config.output
        | .error error =>
            Host.report .debug target ("Using default output directories: " ++ error.message)
            pure OutputPlaces.default
      match source.baseName? with
      | some service => return place directory source service output
      | none => throw (.invalidSource source)
  | none, .ok config => return place directory config.source config.service config.output
  | none, .error error => throw (.noSource error)

end Project

end FfiBindings
