import FfiBindings.Host.Basic

/-!
# The log

Messages go to the console and to a log file. The file gets every message, one record each with the
date and time; the console gets those that the verbosity allows. Trouble with the file is passed
over in silence. While a command runs quietly a spinner may be shown on a terminal; it leaves
nothing behind.
-/

namespace FfiBindings.Log

/-- The environment variable that names the directory of the log file. -/
def directoryVariable : Text := "GOPHP_LOG_DIR"

/-- The name of the log file. -/
def fileName : Path := Path.ofText "gophp.log"

/-- How a program that was run has ended: with an exit code, or without one by a signal. -/
abbrev ExitCode := Option Nat

/-- A message for the log. -/
inductive Message where
  | info (text : Text)
  | debug (text : Text)
  | warn (text : Text)
  | error (text : Text)
  | success (text : Text)
  | step (text : Text)
  | spinnerStart (text : Text)
  | spinnerSuccess (text : Text)
  | spinnerError (text : Text)
  | spinnerStop
  /-- What a program that was run has put out. -/
  | commandOutput (command : Text) (exit : ExitCode) (output errors : Bytes)
  deriving Repr, DecidableEq

/-- The exit code as it is recorded. -/
def describeExit : ExitCode → Text
  | some code => "Some(" ++ Text.decimal code ++ ")"
  | none => "None"

/-- What a message leaves in the log file. -/
def Message.records : Message → List Text
  | .info text => ["INFO " ++ text]
  | .debug text => ["DEBUG " ++ text]
  | .warn text => ["WARN " ++ text]
  | .error text => ["ERROR " ++ text]
  | .success text => ["SUCCESS " ++ text]
  | .step text => ["STEP: " ++ text]
  | .spinnerStart _ => []
  | .spinnerSuccess text => ["SUCCESS " ++ text]
  | .spinnerError text => ["ERROR " ++ text]
  | .spinnerStop => []
  | .commandOutput command exit output errors =>
      let stream (title : Text) (bytes : Bytes) : List Text :=
        if bytes.isEmpty then [] else ["  " ++ title ++ ":\n" ++ Utf8.decodeLossy bytes]
      ("COMMAND: " ++ command ++ " (exit code: " ++ describeExit exit ++ ")" : Text)
        :: (stream "STDOUT" output ++ stream "STDERR" errors)

/-- A text in the colours that the codes select, where colours are used at all. -/
def paint (isColored : Bool) (codes text : Text) : Text :=
  if isColored then "\x1b[" ++ codes ++ "m" ++ text ++ "\x1b[0m" else text

def boldBlue : Text := "1;34"
def boldYellow : Text := "1;33"
def boldRed : Text := "1;31"
def boldGreen : Text := "1;32"
def boldCyan : Text := "1;36"
def bold : Text := "1"
def cyan : Text := "36"
def dimmed : Text := "2"

/-- The line that a message puts on the console. -/
def Message.consoleLine? (verbosity : Nat) (isColored : Bool) : Message → Option Text
  | .info text => if 1 ≤ verbosity then some text else none
  | .debug text =>
      if 1 ≤ verbosity then some (paint isColored boldBlue "DEBUG:" ++ " " ++ text) else none
  | .warn text => some (paint isColored boldYellow "warning:" ++ " " ++ text)
  | .error text => some (paint isColored boldRed "Error:" ++ " " ++ text)
  | .success text => some (paint isColored boldGreen "✔" ++ " " ++ text)
  | .step text => if 2 ≤ verbosity then some ("TRACE: " ++ text) else none
  | .spinnerStart _ => none
  | .spinnerSuccess text => some (paint isColored boldGreen "✔" ++ " " ++ text)
  | .spinnerError text => some ("  " ++ paint isColored boldRed "✗" ++ " " ++ text)
  | .spinnerStop => none
  | .commandOutput .. => none

/-- A record as a line of the log file. -/
def recordLine (clock : Clock) (record : Text) : Text :=
  "[" ++ clock.dateTime ++ "] " ++ record ++ "\n"

/-- Add a record to the log file, if there is one and it can be opened. -/
def record (text : Text) : Effect Unit :=
  modify fun host =>
    match host.log.file with
    | none => host
    | some file =>
        match host.files.append host.fileLimit host.directory file
            (Utf8.encode (recordLine host.clock text)) with
        | .ok files => { host with files }
        | .error _ => host

/-- Log a message. -/
def write (message : Message) : Effect Unit := do
  for text in message.records do record text
  let host ← get
  match message.consoleLine? host.log.verbosity host.isColored with
  | some line => Host.printError line
  | none => return

/-- The home directory: the environment's, where it names one, and else that of the system's
    administrator. -/
def homeDirectory (host : Host) : Path :=
  match host.environmentValue? "HOME" with
  | some home => if home.isEmpty then .ofText "/root" else ⟨home⟩
  | none => .ofText "/root"

/-- The directory of the log file when the environment names none. -/
def configDirectory (host : Host) : Path :=
  ((homeDirectory host).join (.ofText ".config")).join (.ofText "gophp")

/-- The directory of the log file. -/
def directoryOf (host : Host) : Path :=
  match host.environmentValue? directoryVariable with
  | some directory => ⟨directory⟩
  | none => configDirectory host

/-- Start a log in a directory, which is made if it is missing. A log file already there is
    removed. -/
def startIn (verbosity : Nat) (directory : Path) : Action Fault Unit := do
  modify fun host => { host with log := { host.log with verbosity } }
  Host.makeDirectories directory
  let file := directory.join fileName
  modify fun host =>
    match host.files.removeFile host.directory file with
    | .ok files => { host with files, log := { host.log with file := some file } }
    | .error _ => { host with log := { host.log with file := some file } }

/-- Start a log where the environment wants it. -/
def start (verbosity : Nat) : Action Fault Unit := do
  startIn verbosity (directoryOf (← get))

/-- Why a log could not be started, in words. -/
def startMessage (fault : Fault) : Text := "Failed to create log directory: " ++ fault.message

/-- Show where the log file is. -/
def showPath : Effect Unit := do
  let host ← get
  let path := host.log.file.getD ((configDirectory host).join fileName)
  Host.printError ("Log file: " ++ path.display)

end FfiBindings.Log
