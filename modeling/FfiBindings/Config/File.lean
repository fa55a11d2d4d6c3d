import FfiBindings.Config.Reader
import FfiBindings.Config.Writer
import FfiBindings.Host.Basic

/-!
# The project file
-/

namespace FfiBindings.Config

/-- Why a project file cannot be used. -/
inductive FileError where
  | unreadable (path : Path) (fault : Fault)
  | malformed (path : Path) (error : ReadError)
  | unrenderable (error : WriteError)
  | unwritable (fault : Fault)
  deriving Repr, DecidableEq

/-- The error in words. -/
def FileError.message : FileError → Text
  | .unreadable path fault => "Failed to read " ++ path.display ++ ": " ++ fault.message
  | .malformed path error => "Failed to parse " ++ path.display ++ ": " ++ error.message
  | .unrenderable error => "Failed to serialize config: " ++ error.message
  | .unwritable fault => "IO error: " ++ fault.message

/-- What caused the error, from the nearest cause to the first. -/
def FileError.causes : FileError → List Text
  | .unreadable _ fault => [fault.message]
  | .malformed _ error => [error.message]
  | .unrenderable error => [error.message]
  | .unwritable fault => [fault.message]

/-- The part of the program that handles project files, as it names itself in events. -/
def fileTarget : Text := "gophp_config::project"

/-- Load the project file at a path. -/
def load (path : Path) : Action FileError Config := do
  Host.report .debug fileTarget ("Loading project config from " ++ path.display)
  let text ← (Host.readText path).orElseThrow (.unreadable path)
  match parse text with
  | .ok config => return config
  | .error error => throw (.malformed path error)

/-- Load the project file in a directory. -/
def loadFrom (directory : Path) : Action FileError Config := load (directory.join fileName)

/-- Write the project file into a directory. -/
def saveTo (config : Config) (directory : Path) : Action FileError Path := do
  let path := directory.join fileName
  match config.render with
  | .error error => throw (.unrenderable error)
  | .ok text =>
      (Host.writeText path text).orElseThrow .unwritable
      return path

end FfiBindings.Config
