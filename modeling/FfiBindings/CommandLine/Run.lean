import FfiBindings.CommandLine.Help
import FfiBindings.Command.Build
import FfiBindings.Command.Init
import FfiBindings.Command.Make
import FfiBindings.Trace.Line

/-!
# The program

What the program does from its arguments to its exit code: it starts the log, decides which events
to show, runs the command, and tells about its failure.
-/

namespace FfiBindings.CommandLine

/-- The name and version of the program. -/
def versionText : Text := "gophpffi 0.1.0"

/-- The exit code for a command that failed. -/
def failureCode : Nat := 1

/-- The exit code for a command line that is not understood. -/
def misuseCode : Nat := 2

/-- Run a command. -/
def execute (behaviour : Program.Behaviour) : Command → Command.Run Unit
  | .init name isYes => Command.runInit name isYes
  | .generate source => Command.runGenerate source
  | .build source => Command.runBuild behaviour source
  | .make source => Command.runMake behaviour source

/-- Run a command with a fresh log, and give the exit code. -/
def runCommand (behaviour : Program.Behaviour) (verbosity : Nat) (command : Command) :
    Effect Nat := do
  match ← (Log.start verbosity).run with
  | .ok () => pure ()
  | .error fault =>
      Host.printError
        ("Warning: Failed to initialize logger: " ++ Log.startMessage fault)
  match ← (execute behaviour command).run with
  | .ok () => return 0
  | .error failure =>
      Log.write (.error failure.message)
      Log.showPath
      return failureCode

/-- Do what the arguments ask for, and give the exit code. -/
def perform (behaviour : Program.Behaviour) : Request → Effect Nat
  | .run verbosity command => runCommand behaviour verbosity command
  | .help page => do
      page.lines.forM Host.print
      return 0
  | .version => do
      Host.print versionText
      return 0
  | .misuse => return misuseCode

/-- Whether console text is coloured by the wish of the environment. Only a terminal would be
    coloured without it. -/
def wantsColor (host : Host) : Bool :=
  match host.environmentValue? "CLICOLOR_FORCE" with
  | some value => value != Utf8.encode "0" && (Utf8.decode? value).isSome
  | none => false

/-- The filter for events: the environment's, if it has one that can be read, and else that of the
    verbosity. -/
def eventFilter (host : Host) (verbosity : Nat) : Trace.Filter :=
  match (host.environmentValue? "RUST_LOG").bind Utf8.decode? with
  | some text => (Trace.Filter.parse? text).getD (.ofVerbosity verbosity)
  | none => .ofVerbosity verbosity

/-- How events are shown. They are coloured unless the environment objects. -/
def eventStyle (host : Host) (verbosity : Nat) : Trace.Style :=
  { filter := eventFilter host verbosity
    isColored := (host.environmentValue? "NO_COLOR").all (·.isEmpty) }

/-- What an emission writes to standard output. -/
def outputOf : Emission → Text
  | .standardOutput text => text
  | _ => []

/-- What an emission writes to standard error. -/
def errorsOf (style : Trace.Style) (clock : Clock) : Emission → Text
  | .standardOutput _ => []
  | .standardError text => text
  | .event event => if style.filter.shows event then Trace.line style clock event else []

/-- What a run of the program has come to. -/
structure Report where
  exit : Nat
  output : Text
  errors : Text
  files : FileSystem
  deriving Repr, DecidableEq

/-- Run the program on its arguments. -/
def run (behaviour : Program.Behaviour) (arguments : List Text) (host : Host) : Report :=
  let request := Request.ofArguments arguments
  let start :=
    { host with isColored := wantsColor host, log := ⟨0, none⟩, emissions := [], launches := [] }
  let (exit, after) := (perform behaviour request).run start
  let style := eventStyle host after.log.verbosity
  { exit
    output := after.emissions.flatMap outputOf
    errors := after.emissions.flatMap (errorsOf style host.clock)
    files := after.files }

end FfiBindings.CommandLine
