import FfiBindings.CommandLine.Run
import FfiBindings.Host.Calendar
import FfiBindings.Program.Script.Run

/-!
# The command line program

The outermost layer: it takes in what a run can see, lets the library work on it, and carries out
what has changed. A run sees the working directory with all below it, the files that its arguments
and its environment name, and the toolchain on the search path. Programs that are launched have to
be shell scripts.
-/

namespace FfiBindings.Main

/-- The environment variables that a run looks at. -/
def variableNames : List String :=
  ["PATH", "HOME", "GOPHP_LOG_DIR", "GOPHP_GO", "GOPHP_INIT_YES", "RUST_LOG", "NO_COLOR",
    "CLICOLOR_FORCE"]

/-- The variables that are set, with their values. -/
def readEnvironment : IO (List (Text × Bytes)) :=
  variableNames.filterMapM fun name => do
    return (← IO.getEnv name).map fun value => (name.toList, Utf8.encode value.toList)

/-- The location of an absolute path. -/
def locationOf (path : String) : Location := (Path.ofText path.toList).steps.reverse

/-- The absolute path of a location. -/
def pathOf (location : Location) : String :=
  String.ofList (location.reverse.flatMap fun name => '/' :: Utf8.decodeLossy name)

/-- Take in a directory and those above it. -/
def withDirectories (files : FileSystem) (location : Location) : FileSystem :=
  (List.range location.length).foldr
    (fun n files => files.put (location.drop n) .directory) files

/-- Take in the file at a path, if there is one. -/
def withFile (files : FileSystem) (isExecutable : Bool) (path : String) : IO FileSystem := do
  try
    let content ← IO.FS.readBinFile path
    let location := locationOf path
    return (withDirectories files location.tail).put location
      (.file content.toList isExecutable)
  catch _ => return files

/-- Take in what the entries of a directory are, with all below them. -/
partial def withEntries (files : FileSystem) (entries : Array IO.FS.DirEntry) :
    IO FileSystem := do
  let mut files := files
  for entry in entries do
    let path := entry.path.toString
    match (← entry.path.metadata).type with
    | .dir =>
        files ← withEntries (withDirectories files (locationOf path)) (← entry.path.readDir)
    | _ => files ← withFile files false path
  return files

/-- Take in the toolchain from the directories of the search path. -/
def withToolchain (files : FileSystem) (environment : List (Text × Bytes)) : IO FileSystem := do
  let searchPath := (environment.lookup "PATH".toList).getD []
  let named := (environment.lookup toolchainVariable).toList.map Path.mk
  let found := (Program.searchEntries searchPath).map (·.join Build.toolchainProgram)
  let shell := Path.ofText "/bin/sh"
  (named ++ found ++ [shell]).foldlM (fun files path =>
    withFile files true (String.ofList path.display)) files

/-- The readings of the clock now, as a new file shows them. -/
def readClock : IO Clock := do
  let (_, path) ← IO.FS.createTempFile
  let made := (← path.metadata).modified
  IO.FS.removeFile path
  return .ofSeconds made.sec.toNat (made.nsec.toNat / 1000) "0.00"

/-- What a run with some arguments can see. -/
def readHost (arguments : List String) : IO Host := do
  let directory ← IO.currentDir
  let location := locationOf directory.toString
  let environment ← readEnvironment
  let files := withDirectories ⟨[]⟩ location
  let files ← withEntries files (← directory.readDir)
  let files ← arguments.foldlM (fun files argument =>
    withFile files false
      (String.ofList ((Path.ofText directory.toString.toList).join
        (.ofText argument.toList)).display)) files
  let files ← withToolchain files environment
  let host : Host :=
    { files
      directory := location
      environment
      clock := ← readClock
      isColored := false
      input := []
      log := ⟨0, none⟩
      emissions := []
      launches := [] }
  let logDirectory := Log.directoryOf host
  let files ← withFile host.files false
    (String.ofList (logDirectory.join Log.fileName).display)
  return { host with files }

/-- Carry out what tells one tree from the one before. -/
def carryOut (before after : FileSystem) : IO Unit := do
  for (location, entry) in before.entries do
    if (after.entryAt? location).isNone && !(entry == .directory) then
      IO.FS.removeFile (pathOf location)
  for (location, entry) in after.entries do
    if before.entryAt? location != some entry then
      match entry with
      | .directory => IO.FS.createDirAll (pathOf location)
      | .file content _ => IO.FS.writeBinFile (pathOf location) ⟨content.toArray⟩

/-- Run the program, and show what it puts out on standard output. An answer is read from standard
    input only where the run depends on it, and after all that is put out before. -/
def runAsking (arguments : List Text) (host : Host) : IO CommandLine.Report := do
  let run (input : Bytes) : CommandLine.Report :=
    CommandLine.run (Program.Script.behaviour fun _ => none) arguments { host with input }
  let report := run []
  if report == run (Utf8.encode "y\n") then
    IO.print (String.ofList report.output)
    return report
  let question := (report.output.zip (run (Utf8.encode "y\n")).output).takeWhile fun (a, b) =>
    a == b
  IO.print (String.ofList (question.map (·.1)))
  (← IO.getStdout).flush
  let answer ← (← IO.getStdin).getLine
  let report := run answer.toUTF8.toList
  IO.print (String.ofList (report.output.drop question.length))
  return report

end FfiBindings.Main

open FfiBindings in
/-- Run the program on its arguments and give its exit code. -/
def main (arguments : List String) : IO UInt32 := do
  let host ← FfiBindings.Main.readHost arguments
  let report ← FfiBindings.Main.runAsking (arguments.map String.toList) host
  FfiBindings.Main.carryOut host.files report.files
  IO.eprint (String.ofList report.errors)
  return UInt32.ofNat report.exit
