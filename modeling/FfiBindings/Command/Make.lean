import FfiBindings.Build.Library
import FfiBindings.Command.Generate

/-!
# Generating and building in one go
-/

namespace FfiBindings.Command

/-- The command that generates the bindings and then builds the library. -/
def runMake (behaviour : Program.Behaviour) (source : Option Path) : Run Unit := do
  Log.write (.debug "Handling make command")
  let directory ← workingDirectory
  let project ← ofProject (Project.resolve source directory)
  printHeaded "[1/2]" "Generating PHP bindings..."
  let generated ← asStep "Generate step failed" (generate project)
  reportGenerated generated
  Host.print []
  printHeaded "[2/2]" "Building shared library..."
  let plan ← asStep "Build step failed" (Build.build behaviour project directory)
  Host.print []
  Log.write (.success
    ("Bindings in " ++ project.outputDirectory.display ++ ", library in " ++
      plan.library.display))

end FfiBindings.Command
