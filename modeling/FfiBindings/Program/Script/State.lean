import FfiBindings.Program.Launch
import FfiBindings.Program.Script.Command
import FfiBindings.Program.Script.Number
import FfiBindings.Program.Script.Setting

/-!
# Running scripts

What a script works on: files, variables, functions, and the streams through which it reads and
puts out text. What it does is a change of that state, which a complaint can cut short. As in words,
a character stands for the byte of its number.
-/

namespace FfiBindings.Program.Script

/-- Bytes as the characters of the same numbers. -/
def ofBytes (bytes : Bytes) : Text := bytes.map fun b => Char.ofNat b.toNat

/-- The bytes that characters stand for. -/
def toBytes (text : Text) : Bytes := text.map fun c => UInt8.ofNat c.toNat

/-- Where a stream leads. -/
inductive Channel where
  /-- To a text that is collected, by its place among those texts. -/
  | collected (index : Nat)
  /-- To the end of the file at a location. -/
  | file (location : Location)
  /-- From a text that is read, by its place among those texts. -/
  | source (index : Nat)
  | nowhere
  deriving Repr, DecidableEq

/-- How a script goes on after a command. -/
inductive Flow where
  | onward
  /-- It leaves so many loops. -/
  | leavingLoops (count : Nat)
  /-- It leaves loops, and the last of so many goes on with its next round. -/
  | nextRound (count : Nat)
  | leavingFunction
  | ended
  /-- It was ended from outside. -/
  | killed
  deriving Repr, DecidableEq

/-- The machine programs besides the shell, each by the place of its file. -/
abbrev Machines := Location → Option Behaviour

/-- A running script. -/
structure State where
  files : FileSystem
  machines : Machines
  /-- The size within which files have to stay. Nothing is ended for writing on: the signal for that is taken
      to be passed over. -/
  fileLimit : Option Nat
  directory : Location
  /-- The name that the script goes by in what it says of itself. -/
  name : Text
  arguments : List Text
  settings : Settings
  /-- The variables that are set, the latest first. -/
  values : List (Text × Text)
  /-- The variables that programs started from here see. -/
  exported : List Text
  /-- The variables that keep their value. -/
  fixed : List Text
  /-- For each function that runs, the variables of its own with the values they had before. -/
  frames : List (List (Text × Option Text))
  functions : List (Text × Command)
  /-- What is done at a signal, by its number; the end of the script has number zero. -/
  traps : List (Nat × Text)
  /-- The exit code of the last command. -/
  status : Nat
  /-- The exit code of the last script whose output went into the words of a command. -/
  outputStatus : Nat
  /-- The exit codes of what was run in the background. -/
  backgrounds : List Nat
  streams : List (Nat × Channel)
  /-- The texts that are collected, each with its last character first. -/
  collected : List Text
  /-- What is left of the texts that are read. -/
  sources : List Text
  /-- The line of the command that runs. -/
  line : Nat
  /-- The line that reading has come to. -/
  readLine : Nat
  /-- The command of the shell that complains. -/
  speaker : Option Text
  /-- The number of loops that run. -/
  loops : Nat
  /-- How much of the argument that holds options has been gone through. -/
  optionOffset : Option Nat
  flow : Flow

/-- Something that a script does. A complaint can cut it short. -/
abbrev Act := ExceptT Unit (StateM State)

namespace State

/-- Put text out on a stream. -/
def put (state : State) (stream : Nat) (text : Text) : State :=
  match state.streams.lookup stream with
  | some (.collected index) =>
      { state with collected := state.collected.modify index (text.reverse ++ ·) }
  | some (.file location) =>
      let (old, isExecutable) := state.files.contentAt location
      let added := FileSystem.fitting state.fileLimit old.length (toBytes text)
      { state with files := state.files.put location (.file (old ++ added) isExecutable) }
  | some (.source _) | some .nowhere | none => state

/-- The text that is left to be read from a stream. -/
def unread (state : State) (stream : Nat) : Text :=
  match state.streams.lookup stream with
  | some (.source index) => state.sources.getD index []
  | _ => []

/-- Leave text to be read from a stream. -/
def withUnread (state : State) (stream : Nat) (text : Text) : State :=
  match state.streams.lookup stream with
  | some (.source index) => { state with sources := state.sources.set index text }
  | _ => state

/-- Lead a stream somewhere else, or close it. -/
def connect (state : State) (stream : Nat) (channel : Option Channel) : State :=
  let others := state.streams.filter (·.1 != stream)
  { state with streams := (channel.map (stream, ·)).toList ++ others }

/-- Lead some streams where they led before. -/
def restore (state : State) (streams : List Nat) (before : State) : State :=
  streams.foldl (fun state stream => state.connect stream (before.streams.lookup stream)) state

/-- The number of the process, as the script sees it. -/
def processNumber : Text := "1"

/-- The number of the process that started the script. -/
def parentNumber : Text := "0"

/-- The number of a process in the background, by its place among those. -/
def backgroundNumber (index : Nat) : Text := Text.decimal (index + 2)

/-- The path of a location. -/
def pathText (location : Location) : Text :=
  if location.isEmpty then "/" else location.reverse.flatMap fun name => '/' :: ofBytes name

/-- The value of a variable. -/
def valueOf? (state : State) (name : Text) : Option Text :=
  state.values.lookup name

/-- The value of a parameter, if it has one. -/
def value? (state : State) : Parameter → Option Text
  | .arguments | .argumentText => some (Text.join " " state.arguments)
  | .argumentCount => some (Text.decimal state.arguments.length)
  | .status => some (Text.decimal state.status)
  | .process => some processNumber
  | .background =>
      if state.backgrounds.isEmpty then none
      else some (backgroundNumber (state.backgrounds.length - 1))
  | .settings => some state.settings.shown
  | .position 0 => some state.name
  | .position (n + 1) => state.arguments[n]?
  | .variable name => state.valueOf? name

/-- Give a variable a value, or take its value away. -/
def setVariable (state : State) (name : Text) (value : Option Text) : State :=
  let others := state.values.filter (·.1 != name)
  { state with values := (value.map (name, ·)).toList ++ others }

/-- Let programs started from here see a variable. -/
def share (state : State) (name : Text) : State :=
  if state.exported.contains name then state
  else { state with exported := name :: state.exported }

/-- The entry that a path leads to. -/
def entryAt? (state : State) (path : Text) : Option Entry :=
  state.files.follow? state.directory ⟨toBytes path⟩

end State

/-- Put text out on a stream. -/
def put (stream : Nat) (text : Text) : Act Unit := modify (·.put stream text)

/-- Go on with an exit code. -/
def finish (status : Nat) : Act Unit := modify ({ · with status })

/-- Say what is wrong. -/
def complain (text : Text) : Act Unit := do
  let state ← get
  let speaker := state.speaker.elim [] (· ++ ": ".toList)
  put 2 (state.name ++ ": " ++ Text.decimal state.line ++ ": " ++ speaker ++ text ++ "\n")

/-- Say what is wrong, and cut short what is done. -/
def fail {α : Type} (text : Text) : Act α := do
  complain text
  finish 2
  throw ()

/-- End the script with an exit code. -/
def exit (code : Nat) : Act Unit :=
  modify ({ · with status := code % 256, flow := .ended })

/-- Say what is wrong, and end the script. -/
def failForGood {α : Type} (text : Text) : Act α := do
  complain text
  exit 2
  throw ()

/-- Complain of a flaw in the script, and end the script. -/
def failToRead {α : Type} (complaint : Complaint) : Act α := do
  modify ({ · with line := complaint.line })
  failForGood complaint.flaw.message

/-- Give a variable a value, which it must be allowed to have. -/
def assign (name value : Text) : Act Unit := do
  if (← get).fixed.contains name then failForGood (name ++ ": is read only")
  modify (·.setVariable name (some value))

/-- Do something, and tell whether it was cut short. -/
def isDone (act : Act Unit) : Act Bool := do
  try
    act
    return true
  catch _ => return false

/-- Do something in surroundings of its own, of which nothing is left but files, what was put out and
    read, and the exit code. -/
def apart (act : Act Unit) : Act Unit := do
  let before ← get
  let _ ← isDone act
  let after ← get
  set { before with
    files := after.files
    collected := after.collected
    sources := after.sources
    status := after.status
    flow := if after.flow == Flow.killed then Flow.killed else before.flow }

/-- Do something while its output is collected, and give the output. -/
def collecting (act : Act Unit) : Act Text := do
  let before ← get
  let index := before.collected.length
  set { before with collected := before.collected ++ [[]] }
  modify (·.connect 1 (some (.collected index)))
  let isDone ← isDone act
  let after ← get
  set { after with collected := after.collected.take index, streams := before.streams }
  if !isDone then throw ()
  return ((after.collected.drop index).headD []).reverse

/-- Do something that reads a text, from a stream. -/
def reading (stream : Nat) (text : Text) (act : Act Unit) : Act Unit := do
  let before ← get
  set { before with sources := before.sources ++ [text] }
  modify (·.connect stream (some (.source before.sources.length)))
  let isDone ← isDone act
  modify ({ · with streams := before.streams })
  if !isDone then throw ()

end FfiBindings.Program.Script
