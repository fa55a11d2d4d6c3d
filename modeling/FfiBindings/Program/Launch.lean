import FfiBindings.Log

/-!
# Launching programs

A program is started in a directory of its own choice, in which it is also looked up: a name without
a slash on the search path, any other name as a path from that directory. What the program does then
is a parameter, so that everything here holds for any program.
-/

namespace FfiBindings.Program

/-- How a program has ended, and what it put out. -/
structure Outcome where
  exit : Log.ExitCode
  output : Bytes
  errors : Bytes
  deriving Repr, DecidableEq

/-- What programs do when they are started: how they end and which files they leave. -/
abbrev Behaviour := Invocation → FileSystem → Outcome × FileSystem

/-- The search path of an environment without one. -/
def defaultSearchPath : Bytes := Utf8.encode "/bin:/usr/bin"

/-- The entries of a search path. -/
def searchEntries (searchPath : Bytes) : List Path :=
  let rec cut : Bytes → List Bytes
    | [] => [[]]
    | b :: rest =>
        if b == 0x3A then [] :: cut rest
        else
          match cut rest with
          | [] => [[b]]
          | entry :: entries => (b :: entry) :: entries
  (cut searchPath).map Path.mk

/-- The interpreter that a script names in its first line. -/
structure Interpreter where
  path : Path
  /-- All that stands behind the path, which is one argument. -/
  argument : Option Bytes
  deriving Repr, DecidableEq

/-- Whether a byte separates words in the first line of a script. -/
def isGap (b : UInt8) : Bool := b == 0x20 || b == 0x09

/-- The interpreter that a script names in its first line. -/
def interpreter? (content : Bytes) : Option Interpreter := do
  let line ← List.isPrefixOf? (Utf8.encode "#!") content
  let line := (line.takeWhile (· != 0x0A)).dropWhile isGap
  let line := (line.reverse.dropWhile isGap).reverse
  let name := line.takeWhile (! isGap ·)
  let argument := (line.dropWhile (! isGap ·)).dropWhile isGap
  if name.isEmpty then none
  else some ⟨⟨name⟩, if argument.isEmpty then none else some argument⟩

/-- Whether the content is that of a machine program. -/
def isMachineProgram (content : Bytes) : Bool :=
  List.isPrefixOf (0x7F :: Utf8.encode "ELF") content

/-- The file that a path names, if it may be executed. -/
def executableAt (files : FileSystem) (directory : Location) (path : Path) :
    Except Fault (Location × Bytes) := do
  let place ← files.locate directory path
  match files.entryAt? place with
  | some (.file content true) => return (place, content)
  | some _ => .error .permissionDenied
  | none => .error .notFound

/-- How many scripts may follow one another before a machine program. -/
def scriptLimit : Nat := 5

/-- The interpreter that it takes to run a content, with the content of the interpreter itself. A machine
    program takes none. -/
def nextInterpreter? (files : FileSystem) (directory : Location) (content : Bytes) :
    Except Fault (Option (Interpreter × Bytes)) :=
  if isMachineProgram content then .ok none
  else
    match interpreter? content with
    | none => .error .notExecutableFormat
    | some interpreter => do
        let (_, program) ← executableAt files directory interpreter.path
        return some (interpreter, program)

/-- The interpreters that it takes to run a content, one by the other, up to a machine program. Fuel
    bounds how many scripts there are among the content and its interpreters. -/
def interpreters (files : FileSystem) (directory : Location) :
    Nat → Bytes → Except Fault (List Interpreter)
  | fuel, content => do
      match ← nextInterpreter? files directory content with
      | none => return []
      | some (interpreter, program) =>
          match fuel with
          | 0 => .error .tooManyLevels
          | fuel + 1 => return interpreter :: (← interpreters files directory fuel program)

/-- The words that the last of some interpreters is started with, its own path in front. Each one gets
    the words of the one before it as its arguments. -/
def interpretedWords (interpreters : List Interpreter) (words : List Bytes) : List Bytes :=
  interpreters.foldl (fun words interpreter =>
    interpreter.path.bytes :: (interpreter.argument.toList ++ words)) words

/-- The file that runs when a path is executed: a machine program, or a script whose interpreters lead
    to one. -/
def runnableAt (files : FileSystem) (directory : Location) (path : Path) :
    Except Fault Location := do
  let (place, content) ← executableAt files directory path
  let _ ← interpreters files directory scriptLimit content
  return place

/-- Look for a name in one directory after another. A file that must not be executed is remembered
    as the failure; other trouble with one entry leads on to the next. -/
def searchRunnable (files : FileSystem) (directory : Location) (name : Path) (failure : Fault) :
    List Path → Except Fault (Location × Path)
  | [] => .error failure
  | entry :: entries =>
      let path := entry.join name
      match runnableAt files directory path with
      | .ok place => .ok (place, path)
      | .error fault =>
          match fault with
          | .notFound | .notDirectory =>
              let failure := if failure == .permissionDenied then failure else fault
              searchRunnable files directory name failure entries
          | .permissionDenied =>
              searchRunnable files directory name .permissionDenied entries
          | fault => .error fault

/-- The file that a program name stands for, and the path it is found by. -/
def lookUp (files : FileSystem) (directory : Location) (searchPath : Option Bytes)
    (program : Path) : Except Fault (Location × Path) :=
  if program.bytes.isEmpty then .error .notFound
  else if program.bytes.contains Path.slash then do
    return (← runnableAt files directory program, program)
  else if program.bytes.length > FileSystem.longestName then .error .nameTooLong
  else
    searchRunnable files directory program .notFound
      (searchEntries (searchPath.getD defaultSearchPath))

/-- The directory that a program is to work in. -/
def enter (host : Host) (directory : Path) : Except Fault Location := do
  let place ← host.files.locate host.directory directory
  if host.files.isDirectory place then .ok place else .error .notDirectory

/-- What a program is started with, or why it cannot be started. -/
def invocation (host : Host) (program : Path) (arguments : List Bytes) (directory : Path) :
    Except Fault Invocation := do
  if (program.bytes :: directory.bytes :: arguments).any (·.contains 0) then
    .error .nullInArgument
  let place ← enter host directory
  let (file, name) ← lookUp host.files place (host.environmentValue? "PATH") program
  let environment := host.environment
  return { file, name, arguments, directory := place, environment, fileLimit := host.fileLimit }

/-- Start a program and wait for its end. The start is on record from then on. -/
def launch (behaviour : Behaviour) (program : Path) (arguments : List Bytes) (directory : Path) :
    Action Fault Outcome := do
  let host ← get
  let started ← invocation host program arguments directory
  let (outcome, files) := behaviour started host.files
  set { host with files, launches := host.launches ++ [started] }
  return outcome

end FfiBindings.Program
