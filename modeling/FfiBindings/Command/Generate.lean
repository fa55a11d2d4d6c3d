import FfiBindings.Command.Failure

/-!
# Generating the bindings
-/

namespace FfiBindings.Command

/-- What a run has generated. -/
structure Generated where
  extraction : Source.Extraction
  /-- The file of the service class. -/
  path : Path
  deriving Repr, DecidableEq

/-- Tell about the places that were passed over. -/
def logSkipped (skipped : List Source.SkippedLine) : Effect Unit := do
  for entry in skipped do
    Log.write (.debug
      ("Skipped line " ++ Text.decimal entry.line ++ " (" ++ entry.reason.message ++ "): " ++
        entry.text))

/-- Extract the exported functions of a project and write its service class. Nothing is written
    unless the whole source can be extracted. -/
def generate (project : Project) : Action ProjectError Generated := do
  let base ← (ExceptT.mk (pure project.baseName) : Action ProjectError Text)
  Log.write (.step ("Extracting exports from " ++ project.source.display))
  let extraction ← (Source.extractFile project.source).orElseThrow .source
  logSkipped extraction.skipped
  (Host.makeDirectories project.libraryDirectory).orElseThrow
    (.noDirectory project.libraryDirectory)
  Log.write (.step ("Writing bindings to " ++ project.outputDirectory.display))
  let path ← (Service.save extraction.functions base project.outputDirectory).orElseThrow
    .service
  return ⟨extraction, path⟩

/-- Show what was found and written. -/
def reportGenerated (generated : Generated) : Effect Unit := do
  let host ← get
  let functions := generated.extraction.functions
  Host.print ("Found " ++ Text.decimal functions.length ++ " exported functions")
  for function in functions do
    Host.print ("  - " ++ Log.paint host.isColored Log.cyan function.name)
  let skipped := generated.extraction.skipped.length
  if 0 < skipped then
    Log.write (.warn
      (Text.decimal skipped ++
        " marked line(s) could not be bound (run with -v for details)"))
  Log.write (.success ("Generated " ++ generated.path.display))

/-- The command that generates the bindings. -/
def runGenerate (source : Option Path) : Run Unit := do
  Log.write (.debug "Handling generate command")
  let directory ← workingDirectory
  let project ← ofProject (Project.resolve source directory)
  printHeaded "Generating PHP bindings for" project.source.display
  let generated ← ofProject (generate project)
  reportGenerated generated

end FfiBindings.Command
