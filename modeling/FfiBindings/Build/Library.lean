import FfiBindings.Build.Toolchain

/-!
# Building the shared library
-/

namespace FfiBindings.Build

/-- Tell about a build that did not succeed: what the program said on standard error goes on. -/
def reportFailure (errors : Bytes) : Effect Unit := do
  Log.write (.spinnerError "go build failed")
  let said := Utf8.decodeLossy errors
  if !(Text.trim said).isEmpty then Host.printError (Text.trimEnd said)

/-- Run the toolchain on a plan in a directory. -/
def runToolchain (behaviour : Program.Behaviour) (program : Path) (plan : Plan)
    (directory : Path) : Action ProjectError Plan := do
  match ← (Program.launch behaviour program (plan.arguments.map Utf8.encode) directory).run with
  | .error fault =>
      Log.write (.spinnerError ("Failed to run " ++ program.display))
      throw (.io fault)
  | .ok outcome =>
      Log.write (.commandOutput "go build" outcome.exit outcome.output outcome.errors)
      if outcome.exit == some 0 then
        Log.write (.spinnerSuccess ("Built " ++ plan.library.display))
        return plan
      reportFailure outcome.errors
      throw (.buildFailed outcome.exit)

/-- Build the shared library of a project for the host's platform. Nothing is touched before the
    toolchain is found. -/
def build (behaviour : Program.Behaviour) (project : Project) (directory : Path) :
    Action ProjectError Plan := do
  let program ← resolveToolchain.orElseThrow .toolchain
  let target := Target.host
  let plan := Plan.ofProject project target
  (Host.makeDirectories project.libraryDirectory).orElseThrow
    (.noDirectory project.libraryDirectory)
  Log.write (.debug
    ("Running " ++ program.display ++ " " ++ Text.join " " plan.arguments))
  Log.write (.spinnerStart
    ("Building " ++ project.service ++ " for " ++ target.system ++ "-" ++ target.architecture))
  runToolchain behaviour program plan directory

end FfiBindings.Build
