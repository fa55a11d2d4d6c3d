import FfiBindings.Service.Document
import FfiBindings.Host.Basic

/-!
# The file of the service class
-/

namespace FfiBindings.Service

open Source (ExportedFunction)

/-- Why the file of a service class cannot be written. -/
inductive FileError where
  | noDirectory (path : Path) (fault : Fault)
  | unwritable (path : Path) (fault : Fault)
  /-- The base name is blank. -/
  | invalidBaseName (base : Text)
  deriving Repr, DecidableEq

/-- The error in words. -/
def FileError.message : FileError → Text
  | .noDirectory path fault =>
      "Failed to create output directory " ++ path.display ++ ": " ++ fault.message
  | .unwritable path fault => "Failed to write " ++ path.display ++ ": " ++ fault.message
  | .invalidBaseName base => "Cannot derive a service name from '" ++ base ++ "'"

/-- What caused the error, from the nearest cause to the first. -/
def FileError.causes : FileError → List Text
  | .noDirectory _ fault => [fault.message]
  | .unwritable _ fault => [fault.message]
  | .invalidBaseName _ => []

/-- The part of the program that writes service classes, as it names itself in events. -/
def writerTarget : Text := "gophp_codegen::writer"

/-- Write the service class of a base name into a directory, which is made if it is missing. A file
    of that name is overwritten. -/
def save (functions : List ExportedFunction) (base : Text) (directory : Path) :
    Action FileError Path := do
  if (Text.trim base).isEmpty then throw (.invalidBaseName base)
  let names := Names.ofBaseName base
  (Host.makeDirectories directory).orElseThrow (.noDirectory directory)
  let path := directory.join (.ofText names.fileName)
  let content := render functions names
  Host.report .debug writerTarget
    ("Writing " ++ names.className ++ " (" ++ Text.decimal (Utf8.encode content).length ++
      " bytes) to " ++ path.display)
  (Host.writeText path content).orElseThrow (.unwritable path)
  Host.report .info writerTarget
    ("Generated " ++ path.display ++ " with " ++ Text.decimal functions.length ++ " methods")
  return path

end FfiBindings.Service
