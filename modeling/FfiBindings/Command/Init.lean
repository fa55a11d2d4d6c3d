import FfiBindings.Command.Failure
import FfiBindings.Text.Case

/-!
# Starting a new service
-/

namespace FfiBindings.Command

/-- The environment variable that answers the question about overwriting. -/
def consentVariable : Text := "GOPHP_INIT_YES"

/-- The lines of the source for a new service, with two functions to start from. -/
def templateLines (sourceFile : Text) : List Text :=
  ["package main",
    "",
    "/*",
    "#include <stdlib.h>",
    "*/",
    "import \"C\"",
    "",
    "//go:generate gophpffi generate " ++ sourceFile,
    "",
    "// Add is a simple addition function for demonstration",
    "//",
    "//export Add",
    "func Add(a, b int) int \x7b",
    "\treturn a + b",
    "\x7d",
    "",
    "// Echo returns the input string",
    "//",
    "//export Echo",
    "func Echo(s string) string \x7b",
    "\treturn s",
    "\x7d",
    "",
    "// main is required for building shared library but never called",
    "func main() \x7b\x7d"]

/-- The source for a new service. -/
def template (sourceFile : Text) : Text := (templateLines sourceFile).flatMap (· ++ "\n")

/-- The name of the source file of a service. -/
def sourceFileName (name : Text) : Text := name ++ ".go"

/-- The files of a new service. -/
structure Scaffold where
  source : Path
  config : Path
  deriving Repr, DecidableEq

/-- Write the source and the project file of a new service into a directory. -/
def scaffold (name : Text) (directory : Path) : Action ProjectError Scaffold := do
  let sourceFile := sourceFileName name
  let source := directory.join (.ofText sourceFile)
  (Host.writeText source (template sourceFile)).orElseThrow .io
  Log.write (.debug ("Wrote " ++ source.display))
  let config ←
    ((Config.new name (.ofText sourceFile)).saveTo directory).orElseThrow .config
  Log.write (.debug ("Wrote " ++ config.display))
  return ⟨source, config⟩

/-- Ask whether a file may be overwritten. Only a clear yes on the next line of standard input
    counts. -/
def confirmOverwrite (path : Path) : Effect Bool := do
  let host ← get
  let color := Log.paint host.isColored
  Host.emit (.standardOutput
    (color Log.boldCyan "?" ++ " File '" ++ path.display ++ "' already exists. Overwrite? " ++
      color Log.dimmed "[y/N] ›" ++ " "))
  match ← Host.readLine.run with
  | .error _ =>
      Log.write (.error "Failed to read input")
      return false
  | .ok line =>
      let answer := Text.lower (Text.trim line)
      return answer == ("y" : Text) || answer == ("yes" : Text)

/-- Whether a service may bear a name: one that is not blank and stays in its directory. -/
def isServiceName (name : Text) : Bool :=
  !(Text.trim name).isEmpty && !name.contains '/' && !name.contains '\\'

/-- Whether the source at a path may be written: it is not there yet, or there is consent. -/
def mayWrite (source : Path) (isYes : Bool) : Effect Bool := do
  let host ← get
  if (host.follow? source).isNone then return true
  if isYes || (host.environmentValue? consentVariable).isSome then
    Log.write (.debug "Skipping confirmation")
    return true
  confirmOverwrite source

/-- Show what was created and what to do next. -/
def reportScaffold (name : Text) (made : Scaffold) : Effect Unit := do
  Log.write (.success ("Created " ++ made.source.display))
  Log.write (.success ("Created " ++ made.config.display))
  let host ← get
  Host.print []
  Host.print (Log.paint host.isColored Log.bold "Next steps:")
  Host.print ("  1. Edit " ++ name ++ ".go and add your exported functions")
  Host.print
    ("  2. Run " ++ Log.paint host.isColored Log.cyan "gophpffi make" ++
      " to generate PHP bindings and build the library")
  Host.print []
  Host.print "Exported functions look like:"
  Host.print "  //export YourFunction"
  Host.print "  func YourFunction(param Type) ReturnType \x7b ... \x7d"

/-- The command that starts a new service. -/
def runInit (name : Text) (isYes : Bool) : Run Unit := do
  Log.write (.debug "Handling init command")
  if !isServiceName name then throw ⟨none, .invalidServiceName name⟩
  let directory ← workingDirectory
  let source := directory.join (.ofText (sourceFileName name))
  if ← mayWrite source isYes then
    let made ← ofProject (scaffold name directory)
    reportScaffold name made
  else
    Log.write (.info "Operation cancelled by user")
    Host.print "Operation cancelled."

end FfiBindings.Command
