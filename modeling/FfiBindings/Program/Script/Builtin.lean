import FfiBindings.Program.Script.Condition
import FfiBindings.Program.Script.Expansion
import FfiBindings.Program.Script.Format

/-!
# Commands that the shell brings along

Each command is a change of the running script by its arguments. Those that run commands in their
turn are not among them.
-/

namespace FfiBindings.Program.Script

/-- The names of the commands of the shell that a function may take. -/
def regularNames : List String :=
  ["[", "alias", "bg", "cd", "chdir", "command", "echo", "false", "fg", "getopts", "hash", "jobs",
    "kill", "printf", "pwd", "read", "test", "true", "type", "ulimit", "umask", "unalias", "wait"]

/-- Whether the name is that of a command that ends the script when it fails. -/
def isSpecial (name : Text) : Bool := specialNames.any (·.toList == name)

/-- Whether the name is that of another command of the shell. -/
def isRegular (name : Text) : Bool := regularNames.any (·.toList == name)

/-- The number that an argument must be. -/
def numberOf (argument : Text) : Act Nat := do
  match Text.natural? 10 argument with
  | some value => return value
  | none => fail ("Illegal number: " ++ argument)

/-- Cut options off arguments: clusters of letters behind a hyphen, up to two hyphens or something
    else. Letters that take a value take the rest of their cluster or the next argument. -/
def readOptions (known valued : Text) : List Text → Act (List (Char × Text) × List Text)
  | [] => return ([], [])
  | ['-', '-'] :: rest => return ([], rest)
  | ('-' :: c :: letters) :: rest => do
      let cluster := c :: letters
      match cluster.find? fun c => !known.contains c && !valued.contains c with
      | some c => fail ("Illegal option -" ++ [c])
      | none =>
          match cluster.dropWhile fun c => !valued.contains c with
          | [] =>
              let (options, rest) ← readOptions known valued rest
              return (cluster.map (·, []) ++ options, rest)
          | c :: value =>
              let plain := (cluster.takeWhile fun c => !valued.contains c).map (·, [])
              match value, rest with
              | [], [] => fail ("No arg for -" ++ [c] ++ " option")
              | [], value :: rest => return (plain ++ [(c, value)], rest)
              | value, rest => return (plain ++ [(c, value)], rest)
  | arguments => return ([], arguments)

/-- A text between single quotes; single quotes in it stand between double quotes. -/
def quoteText (text : Text) : Text :=
  let rec go (isOpen : Bool) : Text → Text
    | [] => if isOpen then ['\''] else ['"']
    | c :: rest =>
        if c == '\'' then (if isOpen then ['\'', '"', c] else [c]) ++ go false rest
        else (if isOpen then [c] else ['"', '\'', c]) ++ go true rest
  '\'' :: go true text

/-- Put out arguments with blanks between them, their escapes resolved. -/
def echo (arguments : List Text) : Act Unit := do
  let isBare := arguments.head? == some ['-', 'n']
  let (text, isEnd) := resolveEscapes (Text.join " " (if isBare then arguments.drop 1 else arguments))
  put 1 (if isBare || isEnd then text else text ++ ['\n'])
  finish 0

/-- Put out arguments as a format says. Complaints come before all that is put out. -/
def printFormat (arguments : List Text) : Act Unit := do
  match (← readOptions [] [] arguments).2 with
  | [] => fail "usage: printf format [arg ...]"
  | text :: arguments =>
      let formatted := format text arguments
      for warning in formatted.warnings do complain warning
      match formatted.ending with
      | some (some text) => complain text
      | _ => pure ()
      put 1 formatted.text.reverse
      match formatted.ending with
      | some (some _) =>
          finish 2
          throw ()
      | _ => finish (if formatted.warnings.isEmpty then 0 else 1)

/-- Go to a directory. -/
def changeDirectory (arguments : List Text) : Act Unit := do
  let (_, arguments) ← readOptions "LP" [] arguments
  let state ← get
  let isBack := arguments.head? == some ['-']
  let target :=
    if isBack then (state.valueOf? "OLDPWD").getD []
    else arguments.headD ((state.valueOf? "HOME").getD [])
  let path := if target.isEmpty then ".".toList else target
  match state.files.locate state.directory ⟨toBytes path⟩ with
  | .ok place =>
      if !state.files.isDirectory place then fail ("can't cd to " ++ target)
      let before := State.pathText state.directory
      modify ({ · with directory := place })
      modify (·.setVariable "OLDPWD" (some before))
      modify (·.setVariable "PWD" (some (State.pathText place)))
      if isBack then put 1 (State.pathText place ++ ['\n'])
      finish 0
  | .error _ => fail ("can't cd to " ++ target)

/-- Put out the names and values of variables as commands that set them. -/
def showVariables (command : String) (names : List Text) : Act Unit := do
  let state ← get
  for name in names.mergeSort Text.isAtMost do
    let value := (state.valueOf? name).elim [] fun value => '=' :: quoteText value
    put 1 (command.toList ++ ' ' :: name ++ value ++ ['\n'])
  finish 0

/-- Cut an argument at its first equals sign. -/
def splitAssignment (argument : Text) : Text × Option Text :=
  match argument.dropWhile (· != '=') with
  | _ :: value => (argument.takeWhile (· != '='), some value)
  | [] => (argument, none)

/-- Give variables values, and do something with each of them. -/
def declare (change : Text → Act Unit) (arguments : List Text) : Act Unit := do
  for argument in arguments do
    let (name, value) := splitAssignment argument
    if !isName name then fail (name ++ ": bad variable name")
    match value with
    | some value => assign name value
    | none => pure ()
    change name
  finish 0

/-- Let programs see variables. -/
def exportVariables (arguments : List Text) : Act Unit := do
  let (options, arguments) ← readOptions "p" [] arguments
  if arguments.isEmpty || !options.isEmpty then showVariables "export" (← get).exported
  else declare (fun name => modify (·.share name)) arguments

/-- Make variables keep their values. -/
def fixVariables (arguments : List Text) : Act Unit := do
  let (options, arguments) ← readOptions "p" [] arguments
  if arguments.isEmpty || !options.isEmpty then showVariables "readonly" (← get).fixed
  else
    declare (fun name => modify fun state => { state with fixed := name :: state.fixed }) arguments

/-- Give variables back the values they had before when the function that runs is left. -/
def localVariables (arguments : List Text) : Act Unit := do
  match (← get).frames with
  | [] => fail "not in a function"
  | _ =>
      for argument in arguments do
        let (name, value) := splitAssignment argument
        if !isName name then fail (name ++ ": bad variable name")
        modify fun state =>
          match state.frames with
          | frame :: frames =>
              { state with frames := ((name, state.values.lookup name) :: frame) :: frames }
          | [] => state
        match value with
        | some value => assign name value
        | none => pure ()
      finish 0

/-- Take values away from variables, or functions away. -/
def unsetNames (arguments : List Text) : Act Unit := do
  let (options, arguments) ← readOptions "fv" [] arguments
  let isFunction := options.any (·.1 == 'f')
  for name in arguments do
    if isFunction then
      modify fun state => { state with functions := state.functions.filter (·.1 != name) }
    else if (← get).fixed.contains name then fail (name ++ ": is read only")
    else
      modify fun state =>
        { state.setVariable name none with exported := state.exported.filter (· != name) }
  finish 0

/-- Change settings, and perhaps the arguments of the script. -/
def changeSettings (arguments : List Text) : Act Unit := do
  let state ← get
  if arguments.isEmpty then
    for (name, value) in state.values.mergeSort fun a b => Text.isAtMost a.1 b.1 do
      put 1 (name ++ '=' :: quoteText value ++ ['\n'])
    finish 0
  else
    match state.settings.ofWords arguments with
    | .ok (settings, words) =>
        set { state with settings, arguments := words.getD state.arguments, status := 0 }
    | .error setting => fail ("Illegal option " ++ setting)

/-- Drop arguments of the script in front. -/
def shiftArguments (arguments : List Text) : Act Unit := do
  let count ← match arguments.head? with
    | some argument => numberOf argument
    | none => pure 1
  if (← get).arguments.length < count then fail "can't shift that many"
  modify fun state => { state with arguments := state.arguments.drop count, status := 0 }

/-- The line that a text starts with, each character with whether a backslash protects it, whether
    the line is complete, and the rest of the text. -/
def readInputLine (isRaw : Bool) : Text → Pattern × Bool × Text
  | [] => ([], false, [])
  | '\n' :: rest => ([], true, rest)
  | ['\\'] => (if isRaw then [('\\', false)] else [], false, [])
  | '\\' :: c :: rest =>
      if isRaw then
        let (line, isComplete, after) := readInputLine isRaw (c :: rest)
        (('\\', false) :: line, isComplete, after)
      else
        let (line, isComplete, after) := readInputLine isRaw rest
        (if c == '\n' then line else (c, true) :: line, isComplete, after)
  | c :: rest =>
      let (line, isComplete, after) := readInputLine isRaw rest
      ((c, false) :: line, isComplete, after)

/-- Deal a line out to so many variables. The last one gets all that is left. -/
def dealLine (separators : Text) : Nat → Pattern → List Text
  | 0, _ => []
  | count + 1, line =>
      let isSeparator (p : Char × Bool) : Bool := !p.2 && separators.contains p.1
      let isGap (p : Char × Bool) : Bool :=
        isSeparator p && (p.1 == ' ' || p.1 == '\t' || p.1 == '\n')
      let line := line.dropWhile isGap
      let field := line.takeWhile (! isSeparator ·)
      let rest := (line.dropWhile (! isSeparator ·)).dropWhile isGap
      let rest := match rest with
        | p :: more => if isSeparator p then more.dropWhile isGap else rest
        | [] => []
      if count == 0 then
        let whole := if rest.isEmpty then field else (line.reverse.dropWhile isGap).reverse
        [whole.map (·.1)]
      else field.map (·.1) :: dealLine separators count rest

/-- Read a line into variables. -/
def readVariables (arguments : List Text) : Act Unit := do
  let (options, names) ← readOptions "r" "p" arguments
  if names.isEmpty then fail "arg count"
  match names.find? (! isName ·) with
  | some name => fail (name ++ ": bad variable name")
  | none =>
      let state ← get
      let (line, isComplete, rest) :=
        readInputLine (options.any (·.1 == 'r')) (state.unread 0)
      modify (·.withUnread 0 rest)
      for (name, value) in names.zip (dealLine state.separators names.length line) do
        assign name value
      finish (if isComplete then 0 else 1)

/-- Judge a condition. -/
def test (words : List Text) : Act Unit := do
  match holds (← get).entryAt? words with
  | .ok isMet => finish (if isMet then 0 else 1)
  | .error text => fail text

/-- The names of the signals, from number one. -/
def signalNames : List String :=
  ["HUP", "INT", "QUIT", "ILL", "TRAP", "ABRT", "BUS", "FPE", "KILL", "USR1", "SEGV", "USR2",
    "PIPE", "ALRM", "TERM", "STKFLT", "CHLD", "CONT", "STOP", "TSTP", "TTIN", "TTOU", "URG",
    "XCPU", "XFSZ", "VTALRM", "PROF", "WINCH", "IO", "PWR", "SYS"]

/-- The number of a signal that a text states by number or name; the end of a script counts as
    signal zero. -/
def signalOf? (text : Text) : Option Nat :=
  match Text.natural? 10 text with
  | some number => if number ≤ 64 then some number else none
  | none =>
      let name := String.ofList (text.map Char.toUpper)
      if name == "EXIT" then some 0
      else (signalNames.findIdx? (· == name)).map (· + 1)

/-- The name of a signal. -/
def signalName (number : Nat) : Text :=
  if number == 0 then "EXIT" else (signalNames.getD (number - 1) "").toList

/-- Whether a signal does nothing to a program that does not ask for it. -/
def isHarmless (signal : Nat) : Bool := [0, 17, 18, 23, 28].contains signal

/-- What is wrong with a use of signals. -/
def signalUsage : Text :=
  "Usage: kill [-s sigspec | -signum | -sigspec] [pid | job]... or\nkill -l [exitstatus]"

/-- Put out the names of signals: all of them, or the one behind an exit code. -/
def listSignals (arguments : List Text) : Act Unit := do
  match arguments with
  | [] =>
      put 1 (signalNames.foldl (fun text name => text ++ name.toList ++ ['\n']) "0\n".toList)
      finish 0
  | argument :: _ =>
      let number := (Text.natural? 10 (argument.takeWhile Char.isDigit)).getD 0
      let number := if number > 128 then number - 128 else number
      if number == 0 || number > 64 then
        fail ("invalid signal number or exit status: " ++ argument)
      put 1 (signalName number ++ ['\n'])
      finish 0

/-- The signal that arguments state, and the processes it is for; no signal if the names of signals
    are asked for. -/
def readSignal (arguments : List Text) : Act (Option Nat × List Text) := do
  match arguments with
  | ('-' :: text) :: rest =>
      match signalOf? text with
      | some signal => return (some signal, rest)
      | none =>
          let (options, rest) ← readOptions "l" "s" arguments
          if options.any (·.1 == 'l') then return (none, rest)
          match options.find? (·.1 == 's') with
          | some (_, text) =>
              match signalOf? text with
              | some signal => return (some signal, rest)
              | none => fail ("invalid signal number or name: " ++ text)
          | none => return (some 15, rest)
  | arguments => return (some 15, arguments)

/-- Set what is done at signals. -/
def setTraps (arguments : List Text) : Act Unit := do
  let (_, arguments) ← readOptions [] [] arguments
  match arguments with
  | [] =>
      for (signal, action) in (← get).traps.mergeSort fun a b => decide (a.1 ≤ b.1) do
        put 1 ("trap -- ".toList ++ quoteText action ++ ' ' :: signalName signal ++ ['\n'])
      finish 0
  | first :: rest =>
      let isReset := rest.isEmpty || (Text.natural? 10 first).isSome
      let action := if isReset || first == ['-'] then none else some first
      for text in if isReset then arguments else rest do
        match signalOf? text with
        | none =>
            put 2 ("trap: " ++ text ++ ": bad trap\n")
            finish 1
            return
        | some signal =>
            modify fun state =>
              let others := state.traps.filter (·.1 != signal)
              { state with traps := (action.map (signal, ·)).toList ++ others }
      finish 0

/-- Leave loops, or go on with their next round. There may be fewer loops than are to be left. -/
def leaveLoops (flow : Nat → Flow) (arguments : List Text) : Act Unit := do
  let count ← match arguments.head? with
    | some argument => numberOf argument
    | none => pure 1
  if count == 0 then fail ("Illegal number: " ++ arguments.headD [])
  let loops := (← get).loops
  if loops > 0 then modify ({ · with flow := flow (min count loops) })
  finish 0

/-- The exit code that an argument states, or that of the last command. -/
def statusOf (arguments : List Text) : Act Nat := do
  match arguments.head? with
  | some argument => numberOf argument
  | none => return (← get).status

/-- What a look for the next option finds. -/
structure FoundOption where
  /-- The letter of the option; a question mark for one that is wrong. -/
  letter : Char
  /-- The value of the option, empty for one without a value. -/
  value : Option Text
  complaint : Option Text
  /-- The number of the argument to go on with. -/
  index : Nat
  /-- How much of the argument before that one has been gone through. -/
  offset : Option Nat

/-- The option at the start of a text, which is the rest of the argument before the one to go on
    with. Letters with a colon behind them take a value; a colon in front of all letters keeps
    complaints away. -/
def optionAt (letters : Text) (arguments : List Text) (index offset : Nat) (text : Text) :
    FoundOption :=
  let isQuiet := letters.head? == some ':'
  let letter := text.headD '?'
  let rest := text.tail
  let known := letters.dropWhile (· != letter)
  let wrong (sign : Char) (complaint : Text) (rest : Option Nat) : FoundOption :=
    if isQuiet then ⟨sign, some [letter], none, index, rest⟩
    else ⟨'?', none, some complaint, index, rest⟩
  if letter == ':' || known.isEmpty then
    wrong '?' ("Illegal option -" ++ [letter]) (some (offset + 1))
  else if known[1]? == some ':' then
    if !rest.isEmpty then ⟨letter, some rest, none, index, none⟩
    else
      match arguments[index - 1]? with
      | some value => ⟨letter, some value, none, index + 1, none⟩
      | none => wrong ':' ("No arg for -" ++ [letter] ++ " option") none
  else ⟨letter, some [], none, index, some (offset + 1)⟩

/-- The next option among arguments, or the number of the first argument that is none. -/
def findOption (letters : Text) (arguments : List Text) (index : Nat) (offset : Option Nat) :
    Except Nat FoundOption :=
  let begun := (arguments[index - 2]?.getD []).drop (offset.getD 0)
  if index ≥ 2 && offset.isSome && !begun.isEmpty then
    .ok (optionAt letters arguments index (offset.getD 0) begun)
  else
    match arguments[index - 1]? with
    | some ['-', '-'] => .error (index + 1)
    | some ('-' :: c :: rest) => .ok (optionAt letters arguments (index + 1) 1 (c :: rest))
    | _ => .error index

/-- Take the next option out of arguments into a variable. -/
def takeOption (arguments : List Text) : Act Unit := do
  match arguments with
  | letters :: name :: rest =>
      let state ← get
      let index := (((state.valueOf? "OPTIND").bind (Text.natural? 10)).getD 1).max 1
      let words := if rest.isEmpty then state.arguments else rest
      let note (index : Nat) (offset : Option Nat) (letter : Char) : Act Unit := do
        modify ({ · with optionOffset := offset })
        assign "OPTIND" (Text.decimal index)
        assign name [letter]
      match findOption letters words index state.optionOffset with
      | .error index =>
          note index none '?'
          finish 1
      | .ok found =>
          match found.complaint with
          | some text => put 2 (text ++ ['\n'])
          | none => pure ()
          modify (·.setVariable "OPTARG" found.value)
          note found.index found.offset found.letter
          finish 0
  | _ => fail "Usage: getopts optstring var [arg...]"

/-- Wait for what runs in the background, all of it or some. -/
def waitFor (arguments : List Text) : Act Unit := do
  finish 0
  for argument in arguments do
    let backgrounds := (← get).backgrounds
    let found := (List.range backgrounds.length).find? fun index =>
      State.backgroundNumber index == argument
    finish ((found.bind (backgrounds[·]?)).getD 127)

/-- Show or set the rights that new files do not get. -/
def changeMask (arguments : List Text) : Act Unit := do
  let (options, arguments) ← readOptions "S" [] arguments
  match arguments with
  | [] =>
      put 1 (if options.isEmpty then "0022\n" else "u=rwx,g=rx,o=rx\n")
      finish 0
  | mask :: _ =>
      if mask.head?.any Char.isDigit then
        if !mask.all isOctal then fail ("Illegal number: " ++ mask)
      else if !mask.any "+-=".toList.contains then fail ("Illegal mode: " ++ mask)
      finish 0

/-- The bytes of a block, in which sizes of files are counted. -/
def blockSize : Nat := 512

/-- Show or set the size within which files have to stay. Limits of other things are taken as they come. -/
def limitFiles (arguments : List Text) : Act Unit := do
  let (options, arguments) ← readOptions "HSatfdscmlpnvwr" [] arguments
  let things := options.map (·.1) |>.filter fun letter => letter != 'H' && letter != 'S'
  if things.any (· != 'f') then finish 0
  else
    match arguments with
    | [] =>
        let shown := match (← get).fileLimit with
          | some limit => Text.decimal (limit / blockSize)
          | none => "unlimited"
        put 1 (shown ++ "\n")
    | [size] =>
        if size == "unlimited".toList then modify ({ · with fileLimit := none })
        else
          match Text.natural? 10 size with
          | some blocks => modify ({ · with fileLimit := some (blocks * blockSize) })
          | none => fail "bad number"
    | _ => fail "too many arguments"
    finish 0

/-- The path by which a file is found on the search path. -/
def State.searchFor? (state : State) (test : Entry → Bool) (name : Text) : Option Text :=
  let searchPath := ((state.valueOf? "PATH").map toBytes).getD defaultSearchPath
  let paths := (searchEntries searchPath).map fun entry =>
    ofBytes (entry.join ⟨toBytes name⟩).bytes
  paths.find? fun path => (state.entryAt? path).any test

/-- Whether something is a file that may be executed. -/
def isExecutable (entry : Entry) : Bool :=
  match entry with
  | .file _ isExecutable => isExecutable
  | .directory => false

/-- The path by which a program is found on the search path. A name with a slash is a path itself. -/
def State.programPath? (state : State) (name : Text) : Option Text :=
  if name.contains '/' then if (state.entryAt? name).isSome then some name else none
  else state.searchFor? isExecutable name

/-- Tell what kind of command a name is, in words or by the name or path alone. -/
def describe (isShort : Bool) (name : Text) : Act Unit := do
  let state ← get
  let say (text : String) : Act Unit := do
    put 1 (if isShort then name ++ ['\n'] else name ++ ' ' :: text.toList ++ ['\n'])
    finish 0
  if reservedWords.any (·.toList == name) then say "is a shell keyword"
  else if isSpecial name then say "is a special shell builtin"
  else if (state.functions.lookup name).isSome then say "is a shell function"
  else if isRegular name then say "is a shell builtin"
  else
    match state.programPath? name with
    | some path =>
        put 1 (if isShort then path ++ ['\n'] else name ++ " is " ++ path ++ "\n")
        finish 0
    | none =>
        if !isShort then put 1 (name ++ ": not found\n")
        finish 127

/-- Tell what kinds of commands names are. The last one that is none decides the outcome. -/
def describeAll (isShort : Bool) (names : List Text) : Act Unit := do
  let mut status := 0
  for name in names do
    describe isShort name
    if (← get).status != 0 then status := (← get).status
  finish status

end FfiBindings.Program.Script
