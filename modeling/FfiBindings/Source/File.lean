import FfiBindings.Source.Scan
import FfiBindings.Host.Basic

/-!
# Extraction from a file
-/

namespace FfiBindings.Source

/-- Why a source file gives no bindings. -/
inductive FileError where
  | unreadable (path : Path) (fault : Fault)
  | invalid (error : ExtractionError)
  deriving Repr, DecidableEq

/-- The error in words. -/
def FileError.message : FileError → Text
  | .unreadable path fault =>
      "Failed to read Go source " ++ path.display ++ ": " ++ fault.message
  | .invalid error => error.message

/-- What caused the error, from the nearest cause to the first. -/
def FileError.causes : FileError → List Text
  | .unreadable _ fault => [fault.message]
  | .invalid _ => []

/-- The part of the program that passes over sources, as it names itself in events. -/
def passTarget : Text := "gophp_ast::extractor"

/-- The part of the program that extracts from files, as it names itself in events. -/
def extractTarget : Text := "gophp_ast"

/-- Read the text of a source file. -/
def load (path : Path) : Action FileError Text := do
  Host.report .debug passTarget ("Initializing export extractor for: " ++ path.quoted)
  (Host.readText path).orElseThrow (.unreadable path)

/-- Pass over a source and report the notices as events. -/
def extractReporting (source : Text) : Action FileError Extraction := do
  for notice in notices source do
    Host.report (if notice.isWarning then .warn else .debug) passTarget notice.message
  match extract source with
  | .ok extraction => return extraction
  | .error error => throw (.invalid error)

/-- Extract from a source file. -/
def extractFile (path : Path) : Action FileError Extraction := do
  let extraction ← extractReporting (← load path)
  let host ← get
  Host.report .info extractTarget
    ("Extracted " ++ Text.decimal extraction.functions.length ++ " exported functions (" ++
      Text.decimal extraction.skipped.length ++ " skipped lines) from " ++ path.display ++ " in " ++
      host.clock.elapsed ++ "ms")
  return extraction

end FfiBindings.Source
