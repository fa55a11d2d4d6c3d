import FfiBindings.Build.Library
import FfiBindings.Command.Failure

/-!
# The build command
-/

namespace FfiBindings.Command

/-- The command that builds the shared library. -/
def runBuild (behaviour : Program.Behaviour) (source : Option Path) : Run Unit := do
  Log.write (.debug "Handling build command")
  let directory ← workingDirectory
  let project ← ofProject (Project.resolve source directory)
  printHeaded "Source:" project.source.display
  printHeaded "Service:" project.service
  let plan ← ofProject (Build.build behaviour project directory)
  printHeaded "Library:" plan.library.display
  printHeaded "Header:" plan.header.display

end FfiBindings.Command
