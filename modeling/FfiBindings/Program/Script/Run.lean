import FfiBindings.Program.Script.Builtin

/-!
# What a script does

Commands run one after another, each on the state that the one before has left. A script in a word,
a subshell and each side of a pipe run in surroundings of their own. Fuel bounds the depth of all
that runs, the rounds of a loop included; a script that ends uses up only as much as it needs.
-/

namespace FfiBindings.Program.Script

/-- What the failure to open a file is called. -/
def openFailure (isNew : Bool) : Fault → Text
  | .notFound | .notDirectory => if isNew then "Directory nonexistent" else "No such file"
  | .isDirectory => "Is a directory"
  | .nameTooLong => "File name too long"
  | _ => "Permission denied"

/-- Lead a stream to a file that is opened for writing. -/
def openForWriting (stream : Nat) (target : Text)
    (write : FileSystem → Location → Path → Bytes → Except Fault FileSystem) : Act Unit := do
  let state ← get
  let path : Path := ⟨toBytes target⟩
  match write state.files state.directory path [] with
  | .error fault => fail ("cannot create " ++ target ++ ": " ++ openFailure true fault)
  | .ok files =>
      set { state with files }
      match files.locate state.directory path with
      | .ok location => modify (·.connect stream (some (.file location)))
      | .error _ => modify (·.connect stream (some .nowhere))

/-- Lead a stream where another one leads. -/
def joinStream (stream other : Nat) : Act Unit := do
  match (← get).streams.lookup other with
  | some channel => modify (·.connect stream (some channel))
  | none => fail (Text.decimal other ++ ": Bad file descriptor")

/-- Carry out one redirection. -/
def redirect (stream : Nat) (kind : Redirect) (target : Text) : Act Unit := do
  let state ← get
  match kind, String.ofList target with
  | .document, _ =>
      set { state with sources := state.sources ++ [target] }
      modify (·.connect stream (some (.source state.sources.length)))
  | .duplicate, "-" => modify (·.connect stream none)
  | .duplicate, _ =>
      match target with
      | [c] =>
          if c.isDigit then joinStream stream (c.toNat - '0'.toNat)
          else failToRead ⟨.streamNumber, state.readLine⟩
      | _ => failToRead ⟨.streamNumber, state.readLine⟩
  | _, "/dev/null" => modify (·.connect stream (some .nowhere))
  | _, "/dev/stdin" => joinStream stream 0
  | _, "/dev/stdout" => joinStream stream 1
  | _, "/dev/stderr" => joinStream stream 2
  | .create, _ => openForWriting stream target FileSystem.write
  | .append, _ => openForWriting stream target (·.append none)
  | .input, _ =>
      match state.files.read state.directory ⟨toBytes target⟩ with
      | .ok content =>
          set { state with sources := state.sources ++ [ofBytes content] }
          modify (·.connect stream (some (.source state.sources.length)))
      | .error .isDirectory => modify (·.connect stream (some .nowhere))
      | .error fault => fail ("cannot open " ++ target ++ ": " ++ openFailure false fault)

/-- Carry out redirections from left to right, up to one that fails. Their targets are known before
    the first one is carried out. -/
def redirectAll (runScript : Nat → Text → Act Text) (redirections : List Redirection) : Act Unit := do
  let targets ← redirections.mapM fun redirection =>
    return (redirection, ← textOfWord runScript false redirection.target)
  for (redirection, target) in targets do
    redirect redirection.stream redirection.kind target

/-- End the script after a command that has failed where the settings say so, unless its outcome is
    asked for. -/
def endOnFailure (isTested : Bool) : Act Unit := do
  let state ← get
  if state.settings.endsOnFailure && state.status != 0 && !isTested && state.flow == .onward then
    set { state with flow := .ended }

/-- Whether a loop is left after a round. What remains to be left is noted. -/
def leavesLoop : Act Bool := do
  let state ← get
  match state.flow with
  | .onward => return false
  | .leavingLoops count =>
      set { state with flow := if count ≤ 1 then .onward else .leavingLoops (count - 1) }
      return true
  | .nextRound count =>
      set { state with flow := if count ≤ 1 then .onward else .nextRound (count - 1) }
      return decide (1 < count)
  | _ => return true

/-- Do something inside a loop. -/
def inLoop (act : Act Unit) : Act Unit := do
  modify fun state => { state with loops := state.loops + 1 }
  act
  modify fun state => { state with loops := state.loops - 1 }

/-- Put out a command before it runs, where the settings say so, on the streams of the script. -/
def traceCommand (streams : List (Nat × Channel)) (assignments : List (Text × Text))
    (texts : List Text) : Act Unit := do
  let state ← get
  if state.settings.tracesCommands then
    let made := assignments.map fun (name, value) => name ++ '=' :: value
    let sign := (state.valueOf? "PS4").getD "+ "
    modify ({ · with streams })
    put 2 (sign ++ Text.join " " (made ++ texts) ++ "\n")
    modify ({ · with streams := state.streams })

/-- Do something while variables have other values, which programs see. -/
def withVariables (assignments : List (Text × Text)) (act : Act Unit) : Act Unit := do
  let before ← get
  for (name, value) in assignments do
    assign name value
    modify (·.share name)
  let isDone ← isDone act
  for (name, _) in assignments do
    modify (·.setVariable name (before.values.lookup name))
  if !assignments.isEmpty then modify ({ · with exported := before.exported })
  if !isDone then throw ()

/-- Do something as a command of the shell by its name. If a special command is cut short, so is the
    script. -/
def speaking (name : Text) (act : Act Unit) : Act Unit := do
  let before := (← get).speaker
  modify ({ · with speaker := some name })
  let isDone ← isDone act
  modify ({ · with speaker := before })
  if !isDone then
    if isSpecial name && (← get).flow == .onward then modify ({ · with flow := .ended })
    throw ()

/-- The options that a shell is started with: its settings, whether the first word behind them is
    itself a script, and the words behind them. -/
def readStart (settings : Settings) :
    List Text → Except Text (Settings × Bool × List Text)
  | [] => .ok (settings, false, [])
  | word :: words =>
      let isScript := word.head? == some '-' && word.contains 'c' && word.head?.isSome &&
        word.tail.head? != some '-'
      let word := if isScript then word.filter (· != 'c') else word
      let given := if word == ['-'] && isScript then words else word :: words
      (settings.ofWords given).map fun (settings, rest) => (settings, isScript, rest.getD [])

/-- The state that a program started from a script begins with. -/
def State.child (state : State) (name : Text) (arguments : List Text) : State :=
  { state with
    name
    arguments
    settings := .none
    values := ("PPID", State.processNumber) ::
      state.values.filter fun (name, _) => state.exported.contains name
    fixed := []
    frames := []
    functions := []
    traps := []
    status := 0
    outputStatus := 0
    line := 0
    readLine := 0
    speaker := none
    loops := 0
    optionOffset := none
    flow := .onward }

/-- Do something as a program of its own that starts with a state. A program that is ended from
    outside has failed. -/
def runChild (act : Act Unit) (child : State) : Act Unit := do
  let before ← get
  set child
  let _ ← isDone act
  let after ← get
  set { before with
    files := after.files
    collected := after.collected
    sources := after.sources
    status := if after.flow == Flow.killed then 137 else after.status }

/-- Where the machine program lies that a program comes down to by its interpreters. -/
def machineProgram? (files : FileSystem) (directory : Location) (file : Location)
    (interpreters : List Interpreter) : Option Location :=
  match interpreters.getLast? with
  | none => some file
  | some last => (files.locate directory last.path).toOption

/-- Run another machine program than the shell with its words. It sees the variables that are shared, and
    what it puts out goes where the streams lead. -/
def runMachine (machine : Behaviour) (file : Location) (words : List Bytes) : Act Unit := do
  let state ← get
  let shared := state.values.filter fun (name, _) => state.exported.contains name
  let started : Invocation :=
    { file
      name := ⟨words.headD []⟩
      arguments := words.tail
      directory := state.directory
      environment := shared.map fun (name, value) => (Utf8.decodeLossy (toBytes name), toBytes value)
      fileLimit := state.fileLimit }
  let (outcome, files) := machine started state.files
  set { state with files }
  put 1 (ofBytes outcome.output)
  put 2 (ofBytes outcome.errors)
  finish (outcome.exit.getD 137)

mutual

/-- Run a command. `isTested` says whether its outcome is asked for. -/
def run : Nat → Bool → Command → Act Unit
  | 0, _, _ => pure ()
  | fuel + 1, isTested, command => do
      let state ← get
      if state.flow != .onward || state.settings.onlyReads then return
      match command with
      | .nothing => finish 0
      | .simple line assignments words redirections => do
          let _ ← isDone (runSimple fuel isTested line assignments words redirections)
          endOnFailure isTested
      | .sequence first second =>
          run fuel isTested first
          run fuel isTested second
      | .conjunction first second =>
          run fuel true first
          if (← get).status == 0 then run fuel isTested second
      | .disjunction first second =>
          run fuel true first
          if (← get).status != 0 then run fuel isTested second
      | .negation command =>
          run fuel true command
          if (← get).flow == .onward then
            finish (if (← get).status == 0 then 1 else 0)
      | .pipe first second =>
          let text ← collecting (inSubshell fuel (run fuel isTested first))
          reading 0 text (inSubshell fuel (run fuel isTested second))
          endOnFailure isTested
      | .background command =>
          reading 0 [] (inSubshell fuel (run fuel isTested command))
          modify fun state =>
            { state with backgrounds := state.backgrounds ++ [state.status], status := 0 }
      | .redirected line command redirections =>
          modify ({ · with line })
          if ← isDone (redirectAll (outputOf fuel) redirections) then run fuel isTested command
          else endOnFailure isTested
          modify (·.restore (redirections.map (·.stream)) state)
      | .subshell line command redirections =>
          modify ({ · with line })
          inSubshell fuel do
            redirectAll (outputOf fuel) redirections
            run fuel isTested command
          endOnFailure isTested
      | .branch condition yes no =>
          run fuel true condition
          run fuel isTested (if (← get).status == 0 then yes else no)
      | .loop isUntil condition body => inLoop (runLoop fuel isTested isUntil condition body 0)
      | .each line name words body =>
          modify ({ · with line })
          let texts ← match words with
            | some words => words.flatMapM (textsOfWord (outputOf fuel))
            | none => pure state.arguments
          finish 0
          inLoop (runEach fuel isTested name body texts)
      | .choice line subject arms =>
          modify ({ · with line })
          let text ← textOfWord (outputOf fuel) false subject
          runChoice fuel isTested text arms
      | .definition name body =>
          set { state with
            functions := (name, body) :: state.functions.filter (·.1 != name)
            status := 0 }

/-- Run the rounds of a loop, the last of which has ended with an exit code. -/
def runLoop : Nat → Bool → Bool → Command → Command → Nat → Act Unit
  | 0, _, _, _, _, _ => pure ()
  | fuel + 1, isTested, isUntil, condition, body, last => do
      run fuel true condition
      if ← leavesLoop then return
      if ((← get).status == 0) == isUntil then finish last
      else
        run fuel isTested body
        if ← leavesLoop then return
        runLoop fuel isTested isUntil condition body (← get).status

/-- Run a body once for each text, which a variable gets as its value. -/
def runEach : Nat → Bool → Text → Command → List Text → Act Unit
  | 0, _, _, _, _ => pure ()
  | _ + 1, _, _, _, [] => pure ()
  | fuel + 1, isTested, name, body, text :: texts => do
      assign name text
      run fuel isTested body
      if ← leavesLoop then return
      runEach fuel isTested name body texts

/-- Run the command behind the first pattern that a text matches. -/
def runChoice : Nat → Bool → Text → List (List Word × Command) → Act Unit
  | 0, _, _, _ => pure ()
  | _ + 1, _, _, [] => finish 0
  | fuel + 1, isTested, text, (patterns, body) :: arms => do
      let isMatch ← patterns.anyM fun pattern =>
        return (← patternOfWord (outputOf fuel) false pattern).isMatch text
      if isMatch then run fuel isTested body else runChoice fuel isTested text arms

/-- Run a simple command: its words are expanded, its redirections carried out, its variables set,
    and then it is performed. -/
def runSimple : Nat → Bool → Nat → List (Text × Word) → List Word → List Redirection → Act Unit
  | 0, _, _, _, _, _ => pure ()
  | fuel + 1, isTested, line, assignments, words, redirections => do
      modify ({ · with line, outputStatus := 0 })
      let texts ← words.foldlM (fun texts word => do
        let isDeclaring := texts.head?.any fun name =>
          ["export", "readonly", "local"].any (·.toList == name)
        match if isDeclaring then assignment? word else none with
        | some (name, value) =>
            return texts ++ [name ++ '=' :: (← textOfWord (outputOf fuel) true value)]
        | none => return texts ++ (← textsOfWord (outputOf fuel) word)) []
      let before ← get
      let streams := before.streams
      let reconnect : Act Unit := modify (·.restore (redirections.map (·.stream)) before)
      let isConnected ← isDone (redirectAll (outputOf fuel) redirections)
      if !isConnected then
        reconnect
        if texts.head?.any isSpecial && (← get).flow == .onward then
          modify ({ · with flow := .ended })
        return
      match texts with
      | [] =>
          let values ← assignments.mapM fun (name, value) => do
            let text ← textOfWord (outputOf fuel) true value
            assign name text
            return (name, text)
          traceCommand streams values []
          modify fun state => { state with status := state.outputStatus }
          reconnect
      | name :: arguments =>
          let values ← assignments.mapM fun (target, value) => do
            let text ← textOfWord (outputOf fuel) true value
            if isSpecial name then assign target text
            return (target, text)
          traceCommand streams values texts
          let perform := perform fuel isTested name arguments
          if isSpecial name then
            let _ ← isDone perform
          else
            let _ ← isDone (withVariables values perform)
          if !(name == "exec".toList && arguments.isEmpty) then reconnect

/-- Perform a command by its name. Special commands go first, then functions, then the other commands
    of the shell, and then programs. -/
def perform : Nat → Bool → Text → List Text → Act Unit
  | 0, _, _, _ => pure ()
  | fuel + 1, isTested, name, arguments => do
      if isSpecial name then speaking name (performSpecial fuel isTested name arguments)
      else
        match (← get).functions.lookup name with
        | some body => callFunction fuel isTested body arguments
        | none =>
            if name == "command".toList then performPlain fuel isTested arguments
            else if isRegular name then speaking name (performRegular fuel name arguments)
            else runProgram fuel name arguments

/-- Perform a command without regard to functions, or describe it. -/
def performPlain : Nat → Bool → List Text → Act Unit
  | 0, _, _ => pure ()
  | fuel + 1, isTested, arguments => do
      let before ← get
      modify ({ · with speaker := some "command" })
      let (options, rest) ← readOptions "pvV" [] arguments
      modify ({ · with speaker := before.speaker })
      match rest with
      | [] => finish 0
      | name :: arguments =>
          if options.any (·.1 == 'v') then describe true name
          else if options.any (·.1 == 'V') then describe false name
          else if isSpecial name then
            modify ({ · with speaker := some name })
            let isDone ← isDone (performSpecial fuel isTested name arguments)
            modify ({ · with speaker := before.speaker })
            if !isDone then throw ()
          else if isRegular name then speaking name (performRegular fuel name arguments)
          else runProgram fuel name arguments

/-- Perform a special command. -/
def performSpecial : Nat → Bool → Text → List Text → Act Unit
  | 0, _, _, _ => pure ()
  | fuel + 1, isTested, name, arguments => do
      match String.ofList name with
      | "break" => leaveLoops .leavingLoops arguments
      | "continue" => leaveLoops .nextRound arguments
      | "exit" => exit (← statusOf arguments)
      | "return" =>
          let status ← statusOf arguments
          modify ({ · with status := status % 256, flow := .leavingFunction })
      | "eval" =>
          let text := Text.join " " arguments
          finish 0
          if !text.isEmpty then runText fuel isTested 1 text
      | "." =>
          match arguments with
          | [] => finish 0
          | file :: _ => runFile fuel isTested file
      | "exec" =>
          match arguments with
          | [] => finish 0
          | name :: arguments =>
              runProgram fuel name arguments
              modify ({ · with flow := .ended })
      | "export" => exportVariables arguments
      | "readonly" => fixVariables arguments
      | "local" => localVariables arguments
      | "unset" => unsetNames arguments
      | "set" => changeSettings arguments
      | "shift" => shiftArguments arguments
      | "trap" => setTraps arguments
      | "times" =>
          put 1 "0m0.000000s 0m0.000000s\n0m0.000000s 0m0.000000s\n"
          finish 0
      | _ => finish 0

/-- Perform another command of the shell. -/
def performRegular : Nat → Text → List Text → Act Unit
  | 0, _, _ => pure ()
  | fuel + 1, name, arguments => do
      match String.ofList name with
      | "echo" => echo arguments
      | "printf" => printFormat arguments
      | "test" => test arguments
      | "[" =>
          if arguments.getLast? == some [']'] then test arguments.dropLast
          else fail "missing ]"
      | "cd" => changeDirectory arguments
      | "chdir" => changeDirectory arguments
      | "pwd" =>
          put 1 (State.pathText (← get).directory ++ ['\n'])
          finish 0
      | "false" => finish 1
      | "read" => readVariables arguments
      | "kill" => sendSignal fuel arguments
      | "type" => describeAll false arguments
      | "ulimit" => limitFiles arguments
      | "umask" => changeMask arguments
      | "getopts" => takeOption arguments
      | "wait" => waitFor arguments
      | "bg" => fail "No current job"
      | "fg" => fail "No current job"
      | _ => finish 0

/-- Send a signal. One that reaches the script itself does what is set for it, or else ends it. -/
def sendSignal : Nat → List Text → Act Unit
  | 0, _ => pure ()
  | fuel + 1, arguments => do
      if arguments.isEmpty then fail signalUsage
      let (signal, targets) ← readSignal arguments
      match signal, targets with
      | none, targets => listSignals targets
      | some _, [] => fail signalUsage
      | some signal, targets =>
          finish 0
          for target in targets do
            let number ← numberOf (if target.head? == some '-' then target.tail else target)
            if Text.decimal number != State.processNumber then
              complain "No such process\n"
              finish 1
            else if signal != 0 then
              match (← get).traps.lookup signal with
              | some [] => pure ()
              | some action =>
                  if signal == 9 then modify ({ · with flow := .killed })
                  else runTrap fuel action
              | none => if !isHarmless signal then modify ({ · with flow := .killed })

/-- Do what is set for a signal, after which the script goes on as before. -/
def runTrap : Nat → Text → Act Unit
  | 0, _ => pure ()
  | fuel + 1, action => do
      let before ← get
      modify ({ · with speaker := none })
      runText fuel false 1 action
      modify ({ · with speaker := before.speaker })
      if (← get).flow == .onward then finish before.status

/-- Call a function with arguments. -/
def callFunction : Nat → Bool → Command → List Text → Act Unit
  | 0, _, _, _ => pure ()
  | fuel + 1, isTested, body, arguments => do
      let before ← get
      set { before with arguments, loops := 0, frames := [] :: before.frames }
      let _ ← isDone (run fuel isTested body)
      modify fun state =>
        let frame := state.frames.headD []
        let state := frame.foldl (fun state (name, value) => state.setVariable name value) state
        { state with
          arguments := before.arguments
          loops := before.loops
          frames := before.frames
          flow := if state.flow == Flow.leavingFunction then .onward else state.flow }

/-- Run commands in surroundings of their own, with what is set for their end. -/
def inSubshell : Nat → Act Unit → Act Unit
  | 0, _ => pure ()
  | fuel + 1, act =>
      apart do
        modify ({ · with traps := [] })
        let _ ← isDone act
        runEnd fuel

/-- Do what is set for the end of a script, the exit code of which is not changed by it. -/
def runEnd : Nat → Act Unit
  | 0 => pure ()
  | fuel + 1 => do
      let state ← get
      match state.traps.lookup 0 with
      | some action =>
          if state.flow != .killed then
            set { state with
              flow := .onward
              speaker := none
              traps := state.traps.filter (·.1 != 0) }
            let _ ← isDone (runText fuel false 1 action)
            if (← get).flow == .onward then finish state.status
      | none => pure ()

/-- The output of a script in a word, without the line feeds at its end. -/
def outputOf : Nat → Nat → Text → Act Text
  | 0, _, _ => pure []
  | fuel + 1, firstLine, script => do
      let before ← get
      let text ← collecting (inSubshell fuel (runText fuel false firstLine script))
      modify fun state => { state with status := before.status, outputStatus := state.status }
      return ((text.reverse.dropWhile (· == '\n')).reverse).filter (· != '\x00')

/-- Run a text as a part of the script, from a line on. -/
def runText : Nat → Bool → Nat → Text → Act Unit
  | 0, _, _, _ => pure ()
  | fuel + 1, isTested, firstLine, script => do
      let before := (← get).readLine
      runParts fuel isTested (parts firstLine script)
      modify ({ · with readLine := before })

/-- Run the parts of a script. -/
def runParts : Nat → Bool → List Part → Act Unit
  | 0, _, _ => pure ()
  | _ + 1, _, [] => pure ()
  | fuel + 1, isTested, part :: parts => do
      match part with
      | .flaw complaint => failToRead complaint
      | .command command line =>
          modify ({ · with readLine := line })
          run fuel isTested command
          if (← get).flow == .onward then runParts fuel isTested parts

/-- Run a file as a part of the script. A name without a slash is looked up on the search path. -/
def runFile : Nat → Bool → Text → Act Unit
  | 0, _, _ => pure ()
  | fuel + 1, isTested, file => do
      let state ← get
      let isFile (entry : Entry) : Bool := entry != .directory
      let path? := if file.contains '/' then some file else state.searchFor? isFile file
      match path? with
      | none => fail (file ++ ": not found")
      | some path =>
          match state.files.read state.directory ⟨toBytes path⟩ with
          | .error fault => fail ("cannot open " ++ path ++ ": " ++ openFailure false fault)
          | .ok content =>
              finish 0
              runText fuel isTested 1 (ofBytes content)
              modify fun state =>
                { state with
                  flow := if state.flow == Flow.leavingFunction then .onward else state.flow }

/-- Run a program by its name. -/
def runProgram : Nat → Text → List Text → Act Unit
  | 0, _, _ => pure ()
  | fuel + 1, name, arguments => do
      let state ← get
      let refuse (text : String) (status : Nat) : Act Unit := do
        complain (name ++ ": " ++ text.toList)
        finish status
      match if name.contains '/' then some name else state.searchFor? isExecutable name with
      | none =>
          let isBarred := (state.searchFor? (fun _ => true) name).isSome
          refuse (if isBarred then "Permission denied" else "not found") 127
      | some path =>
          let words := path :: arguments
          let found := do
            let (file, content) ← executableAt state.files state.directory ⟨toBytes path⟩
            let shells ← interpreters state.files state.directory scriptLimit content
            return (machineProgram? state.files state.directory file shells, shells)
          match found with
          | .error .permissionDenied => refuse "Permission denied" 126
          | .error .tooManyLevels => refuse "Too many levels of symbolic links" 127
          | .error .notExecutableFormat =>
              runChild (startShell fuel words) (state.child path arguments)
          | .error _ => refuse "not found" 127
          | .ok (file?, shells) =>
              let words := interpretedWords shells (words.map toBytes)
              match file?.bind fun file => (state.machines file).map (file, ·) with
              | some (file, machine) => runMachine machine file words
              | none =>
                  let words := words.map ofBytes
                  let shellName := if shells.isEmpty then name else words.headD []
                  runChild (startShell fuel words.tail) (state.child shellName arguments)

/-- Start a shell with its words: options, and a script or a file that holds one. -/
def startShell : Nat → List Text → Act Unit
  | 0, _ => pure ()
  | fuel + 1, words => do
      let state ← get
      match readStart .none words with
      | .error setting => failForGood ("Illegal option " ++ setting)
      | .ok (settings, isScript, rest) =>
          match isScript, rest with
          | true, [] => failForGood "-c requires an argument"
          | true, script :: rest =>
              set { state with
                settings, name := rest.headD state.name, arguments := rest.tail }
              let _ ← isDone (runText fuel false 1 script)
          | false, [] => pure ()
          | false, file :: rest =>
              match state.files.read state.directory ⟨toBytes file⟩ with
              | .error fault =>
                  failForGood ("cannot open " ++ file ++ ": " ++ openFailure false fault)
              | .ok content =>
                  set { state with settings, name := file, arguments := rest }
                  let _ ← isDone (runText fuel false 1 (ofBytes content))
      runEnd fuel

end

/-- The depth up to which a script is run. -/
def depthLimit : Nat := 1000000

/-- The variables that a script has from the start, behind those of its surroundings. -/
def startVariables (directory : Location) : List (Text × Text) :=
  [("PPID", State.parentNumber), ("PWD", State.pathText directory), ("IFS", " \t\n"),
    ("OPTIND", "1"), ("PS4", "+ ")]

/-- What a shell that is started with its words does. -/
def runShell (machines : Machines) (started : Invocation) (files : FileSystem) (words : List Text) :
    Outcome × FileSystem :=
  let surroundings := started.environment.map fun (name, value) =>
    (ofBytes (Utf8.encode name), ofBytes value)
  let start : State :=
    { files
      machines
      fileLimit := started.fileLimit
      directory := started.directory
      name := words.headD []
      arguments := []
      settings := .none
      values := startVariables started.directory ++ surroundings
      exported := "PWD".toList :: surroundings.map (·.1)
      fixed := []
      frames := []
      functions := []
      traps := []
      status := 0
      outputStatus := 0
      backgrounds := []
      streams := [(0, .nowhere), (1, .collected 0), (2, .collected 1)]
      collected := [[], []]
      sources := []
      line := 0
      readLine := 0
      speaker := none
      loops := 0
      optionOffset := none
      flow := .onward }
  let final := ((startShell depthLimit words.tail).run.run start).2
  let outcome : Outcome :=
    { exit := if final.flow == Flow.killed then none else some (final.status % 256)
      output := toBytes (final.collected.getD 0 []).reverse
      errors := toBytes (final.collected.getD 1 []).reverse }
  (outcome, final.files)

/-- What a started script does, and any other program that is one of the machine programs. A program that
    is neither does nothing and fails. -/
def behaviour (machines : Machines) : Behaviour := fun started files =>
  match files.entryAt? started.file with
  | some (.file content _) =>
      match interpreters files started.directory scriptLimit content with
      | .error _ => (⟨some 127, [], []⟩, files)
      | .ok shells =>
          let words := interpretedWords shells (started.name.bytes :: started.arguments)
          let file? := machineProgram? files started.directory started.file shells
          match file?.bind fun file => (machines file).map (file, ·) with
          | some (file, machine) =>
              machine { started with file, name := ⟨words.headD []⟩, arguments := words.tail } files
          | none =>
              if shells.isEmpty then (⟨some 127, [], []⟩, files)
              else runShell machines started files (words.map ofBytes)
  | _ => (⟨some 127, [], []⟩, files)

end FfiBindings.Program.Script
