import FfiBindings.FileSystem.Access

/-!
# The host of a command

All that a command can see and change: the files, the working directory, the environment, the
clock, its standard input, the settings of its log, and what it has put out and started so far. A
command is a function on hosts, which may fail; what it did before a failure stays done.
-/

namespace FfiBindings

/-- How much an event matters, the most important first. -/
inductive Severity where
  | error
  | warn
  | info
  | debug
  | trace
  deriving Repr, DecidableEq

/-- Something that a part of the program reports about its work. -/
structure TraceEvent where
  severity : Severity
  /-- The part that reports. -/
  target : Text
  message : Text
  deriving Repr, DecidableEq

/-- Something put out. -/
inductive Emission where
  | standardOutput (text : Text)
  | standardError (text : Text)
  | event (event : TraceEvent)
  deriving Repr, DecidableEq

/-- The readings of the clock that a command shows: the date and time for the log, the instant for
    events, and the milliseconds that a step took. -/
structure Clock where
  dateTime : Text
  instant : Text
  elapsed : Text
  deriving Repr, DecidableEq

/-- The settings of the log: how much of it goes to the console, and its file. -/
structure LogSettings where
  verbosity : Nat
  file : Option Path
  deriving Repr, DecidableEq

/-- A started program: its file, the name it was started by, its arguments, its working directory,
    its environment, and the size within which it has to keep the files that it writes to. -/
structure Invocation where
  file : Location
  name : Path
  arguments : List Bytes
  directory : Location
  environment : List (Text × Bytes)
  fileLimit : Option Nat
  deriving Repr, DecidableEq

/-- The surroundings of a command. -/
structure Host where
  files : FileSystem
  /-- The working directory. -/
  directory : Location
  environment : List (Text × Bytes)
  clock : Clock
  /-- Whether console text is coloured. -/
  isColored : Bool
  /-- What is left on standard input. -/
  input : Bytes
  log : LogSettings
  /-- What has been put out, the first thing first. -/
  emissions : List Emission
  /-- The programs that have been started, the first one first. -/
  launches : List Invocation
  /-- The size within which files that are written to have to stay, if there is one. -/
  fileLimit : Option Nat := none
  deriving Repr, DecidableEq

/-- Something done on a host that cannot fail. -/
abbrev Effect (α : Type) := StateM Host α

/-- Something done on a host that fails with an error of the given kind. -/
abbrev Action (ε α : Type) := ExceptT ε (StateM Host) α

namespace Host

/-- Put something out. -/
def emit (emission : Emission) : Effect Unit :=
  modify fun host => { host with emissions := host.emissions ++ [emission] }

/-- Write a line to standard output. -/
def print (line : Text) : Effect Unit := emit (.standardOutput (line ++ ['\n']))

/-- Write a line to standard error. -/
def printError (line : Text) : Effect Unit := emit (.standardError (line ++ ['\n']))

/-- Report an event. -/
def report (severity : Severity) (target message : Text) : Effect Unit :=
  emit (.event ⟨severity, target, message⟩)

/-- The value of an environment variable. -/
def environmentValue? (host : Host) (name : Text) : Option Bytes := host.environment.lookup name

/-- Set an environment variable, or clear it. -/
def setVariable (host : Host) (name : Text) (value : Option Bytes) : Host :=
  let others := host.environment.filter (·.1 != name)
  { host with environment := others ++ (value.map ((name, ·))).toList }

/-- The entry that a path leads to from the working directory. -/
def follow? (host : Host) (path : Path) : Option Entry :=
  host.files.follow? host.directory path

/-- Whether a path leads to a regular file. -/
def isFile (host : Host) (path : Path) : Bool :=
  match host.follow? path with
  | some (.file ..) => true
  | _ => false

/-- The path of the working directory. -/
def workingPath (host : Host) : Path :=
  ⟨if host.directory.isEmpty then [Path.slash]
    else host.directory.reverse.flatMap (Path.slash :: ·)⟩

/-- The path of the working directory, as long as it exists. -/
def directoryPath : Action Fault Path := do
  let host ← get
  if host.files.isDirectory host.directory then return host.workingPath else throw .notFound

/-- The text of a file. -/
def readText (path : Path) : Action Fault Text := do
  let host ← get
  host.files.readText host.directory path

/-- What a file holds after a content was written to it. -/
def held (host : Host) (content : Bytes) : Bytes := FileSystem.fitting host.fileLimit 0 content

/-- Give a file a new content. Opening the file clears it, so one into which not all of the content fits
    is left with what does. -/
def writeText (path : Path) (content : Text) : Action Fault Unit := do
  let host ← get
  let bytes := Utf8.encode content
  let files ← host.files.write host.directory path (host.held bytes)
  set { host with files }
  if host.held bytes ≠ bytes then throw .tooLarge

/-- Make a directory and those above it that are missing. -/
def makeDirectories (path : Path) : Action Fault Unit := do
  let host ← get
  let (files, result) := host.files.makeDirectories host.directory path
  set { host with files }
  result

/-- The rest of the current line of standard input, its line feed included, which is used up even
    if it is not UTF-8. -/
def readLine : Action Fault Text := do
  let host ← get
  let line := host.input.takeWhile (· != 0x0A)
  let rest := host.input.dropWhile (· != 0x0A)
  set { host with input := rest.drop 1 }
  match Utf8.decode? (line ++ rest.take 1) with
  | some text => return text
  | none => throw .invalidText

end Host

/-- Do something whose error is one of several that can occur here. -/
def Action.orElseThrow {ε ε' α : Type} (action : Action ε α) (wrap : ε → ε') : Action ε' α :=
  ExceptT.mk (do return (← action.run).mapError wrap)

end FfiBindings
