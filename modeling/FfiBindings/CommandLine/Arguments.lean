import FfiBindings.Path

/-!
# The command line

Options may stand before and after the command's name, short ones in clusters. An argument of two
hyphens ends them. The first thing that is wrong, or that asks for help or the version, decides, in
the order of the arguments.
-/

namespace FfiBindings.CommandLine

/-- A command with its own arguments. -/
inductive Command where
  | init (name : Text) (isYes : Bool)
  | generate (source : Option Path)
  | build (source : Option Path)
  | make (source : Option Path)
  deriving Repr, DecidableEq

/-- The commands by name. -/
inductive CommandName where
  | init
  | generate
  | build
  | make
  | help
  deriving Repr, DecidableEq

/-- How a command is spelled. -/
def CommandName.text : CommandName → Text
  | .init => "init"
  | .generate => "generate"
  | .build => "build"
  | .make => "make"
  | .help => "help"

/-- All commands. -/
def CommandName.all : List CommandName := [.init, .generate, .build, .make, .help]

/-- The command that a name stands for. -/
def CommandName.ofText? (name : Text) : Option CommandName :=
  CommandName.all.find? fun command => command.text == name

/-- The pages of help. -/
inductive HelpPage where
  /-- The program in short. -/
  | summary
  /-- The program at length. -/
  | full
  | command (name : CommandName)
  deriving Repr, DecidableEq

/-- What a command line asks for. -/
inductive Request where
  | run (verbosity : Nat) (command : Command)
  | help (page : HelpPage)
  | version
  /-- It is not understood. -/
  | misuse
  deriving Repr, DecidableEq

/-- The options given at one level of the command line. -/
structure Options where
  isQuiet : Bool
  /-- How often more messages were asked for. -/
  verbose : Nat
  isYes : Bool
  deriving Repr, DecidableEq

/-- No options. -/
def Options.none : Options := ⟨false, 0, false⟩

/-- The largest number of times that an option is counted. -/
def countLimit : Nat := 255

/-- The verbosity that options ask for. -/
def verbosityOf (isQuiet : Bool) (verbose : Nat) : Nat := if isQuiet then 0 else verbose

/-- Where on the command line an option stands. -/
inductive Level where
  /-- Before the name of the command. -/
  | program
  /-- After the name of the command. -/
  | command (name : CommandName)
  deriving Repr, DecidableEq

/-- What one option does: it ends the reading, or changes the options. -/
abbrev OptionEffect := Except Request Options

/-- Keep quiet. Saying so twice is a mistake. -/
def Options.quiet (options : Options) : OptionEffect :=
  if options.isQuiet then .error .misuse else .ok { options with isQuiet := true }

/-- Say more. -/
def Options.moreVerbose (options : Options) : OptionEffect :=
  .ok { options with verbose := min countLimit (options.verbose + 1) }

/-- Give consent, which only one command asks for. Giving it twice is a mistake. -/
def Options.yes (options : Options) (level : Level) : OptionEffect :=
  if level == .command .init && !options.isYes then .ok { options with isYes := true }
  else .error .misuse

/-- Ask for the version, which only the program itself has. -/
def askVersion (level : Level) : OptionEffect :=
  .error (if level == .program then .version else .misuse)

/-- Ask for help. Only the program itself has more to say at length. -/
def askHelp (level : Level) (isLong : Bool) : OptionEffect :=
  .error (.help (match level with
    | .program => if isLong then .full else .summary
    | .command name => .command name))

/-- Apply an option in its long form. -/
def applyLong (level : Level) (options : Options) (name : Text) : OptionEffect :=
  if name == ("quiet" : Text) then options.quiet
  else if name == ("verbose" : Text) then options.moreVerbose
  else if name == ("help" : Text) then askHelp level true
  else if name == ("version" : Text) then askVersion level
  else if name == ("yes" : Text) then options.yes level
  else .error .misuse

/-- Apply an option in its short form. -/
def applyShort (level : Level) (options : Options) (letter : Char) : OptionEffect :=
  if letter == 'q' then options.quiet
  else if letter == 'v' then options.moreVerbose
  else if letter == 'h' then askHelp level false
  else if letter == 'V' then askVersion level
  else if letter == 'y' then options.yes level
  else .error .misuse

/-- What an argument is by its look. A lone hyphen is a value. -/
inductive Shape where
  | endOfOptions
  | long (name : Text)
  | short (letters : Text)
  | value
  deriving Repr, DecidableEq

/-- Tell what an argument is. -/
def shapeOf : Text → Shape
  | ['-', '-'] => .endOfOptions
  | '-' :: '-' :: name => .long name
  | ['-'] => .value
  | '-' :: letters => .short letters
  | _ => .value

/-- What was read at one level: the options, and the values after them. -/
structure Arguments where
  options : Options
  values : List Text
  deriving Repr, DecidableEq

/-- Whether a command accepts one more value after those it has. A source is not empty. -/
def acceptsValue (level : Level) (values : List Text) (value : Text) : Bool :=
  values.isEmpty && (level == .command .init || !value.isEmpty)

/-- Read the arguments of a command. After the end of options all are values. -/
def readArguments (level : Level) (isEnded : Bool) (read : Arguments) :
    List Text → Except Request Arguments
  | [] => .ok read
  | argument :: rest =>
      let takeValue : Except Request Arguments :=
        if acceptsValue level read.values argument then
          readArguments level isEnded { read with values := read.values ++ [argument] } rest
        else .error .misuse
      if isEnded then takeValue
      else
        match shapeOf argument with
        | .endOfOptions => readArguments level true read rest
        | .long name => do
            let options ← applyLong level read.options name
            readArguments level false { read with options } rest
        | .short letters => do
            let options ← letters.foldlM (applyShort level) read.options
            readArguments level false { read with options } rest
        | .value => takeValue

/-- Ask for help, perhaps about one command. -/
def readHelp : List Text → Request
  | [] => .help .full
  | [name] => ((CommandName.ofText? name).map fun name => .help (.command name)).getD .misuse
  | _ => .misuse

/-- Read what follows the name of a command. Options of the program may stand there too; a count
    given there goes before one given earlier. -/
def readCommand (before : Options) (name : CommandName) (arguments : List Text) : Request :=
  match readArguments (.command name) false ⟨.none, []⟩ arguments with
  | .error request => request
  | .ok read =>
      let isQuiet := before.isQuiet || read.options.isQuiet
      let verbose := if read.options.verbose == 0 then before.verbose else read.options.verbose
      let run (command : Command) : Request := .run (verbosityOf isQuiet verbose) command
      let source := read.values.head?.map Path.ofText
      match name, read.values with
      | .init, service :: _ => run (.init service read.options.isYes)
      | .init, [] => .misuse
      | .generate, _ => run (.generate source)
      | .build, _ => run (.build source)
      | .make, _ => run (.make source)
      | .help, _ => .misuse

/-- Read the arguments of the program. -/
def readFrom (options : Options) : List Text → Request
  | [] => .misuse
  | argument :: rest =>
      match shapeOf argument with
      | .endOfOptions => .misuse
      | .long name =>
          match applyLong .program options name with
          | .ok options => readFrom options rest
          | .error request => request
      | .short letters =>
          match letters.foldlM (applyShort .program) options with
          | .ok options => readFrom options rest
          | .error request => request
      | .value =>
          match CommandName.ofText? argument with
          | some .help => readHelp rest
          | some name => readCommand options name rest
          | none => .misuse

/-- What the arguments of the program ask for. -/
def Request.ofArguments (arguments : List Text) : Request := readFrom .none arguments

end FfiBindings.CommandLine
