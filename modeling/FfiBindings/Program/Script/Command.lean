import FfiBindings.Program.Script.Token

/-!
# Commands of shell scripts

A command is a tree: simple commands of words, assignments and redirections at the leaves, and
lists, conditions, loops, choices, functions and pipes above them. A script is read command by
command, as each of its lines, with the lines that continue it, is run before the next is looked at;
so a flaw counts only once reading has come that far.
-/

namespace FfiBindings.Program.Script

/-- Where a stream of a command leads. -/
structure Redirection where
  stream : Nat
  kind : Redirect
  target : Word

/-- A command. -/
inductive Command where
  /-- Nothing, with success. -/
  | nothing
  | simple (line : Nat) (assignments : List (Text × Word)) (words : List Word)
      (redirections : List Redirection)
  | sequence (first second : Command)
  /-- The second command runs if the first one succeeds. -/
  | conjunction (first second : Command)
  /-- The second command runs if the first one fails. -/
  | disjunction (first second : Command)
  /-- The outcome is turned around. -/
  | negation (command : Command)
  /-- What the first command puts out is read by the second. -/
  | pipe (first second : Command)
  | background (command : Command)
  | redirected (line : Nat) (command : Command) (redirections : List Redirection)
  /-- The command changes nothing for those after it but files. -/
  | subshell (line : Nat) (command : Command) (redirections : List Redirection)
  | branch (condition yes no : Command)
  /-- The body runs while the condition succeeds, or until it does. -/
  | loop (isUntil : Bool) (condition body : Command)
  /-- The body runs for each of the fields of some words, or for each argument. -/
  | each (line : Nat) (name : Text) (words : Option (List Word)) (body : Command)
  /-- The command behind the first pattern that fits runs. -/
  | choice (line : Nat) (subject : Word) (arms : List (List Word × Command))
  | definition (name : Text) (body : Command)

/-- A flaw, with the line on which it is found. -/
structure Complaint where
  flaw : Flaw
  line : Nat

/-- Something that is read from tokens, the ones that are left being handed on. -/
abbrev Reading := StateT Tokens (Except Complaint)

/-- The token that comes next. -/
def next : Reading Token := do return ((← get).head?.map (·.1)).getD .finish

/-- The line on which reading goes on after the next token. -/
def nextLine : Reading Nat := do return ((← get).head?.map (·.2)).getD 0

/-- Pass over the next token. The end of the script stays where it is. -/
def skip : Reading Unit :=
  modify fun tokens => match tokens with
    | [(.finish, line)] => [(.finish, line)]
    | tokens => tokens.tail

/-- Complain of the next token as a word without a meaning of its own, if it is a word. -/
def refuseWord {α : Type} (wanted : Text) : Reading α := do
  match ← next with
  | .word _ => throw ⟨.unexpected "word" (some wanted), ← nextLine⟩
  | .flaw flaw => throw ⟨flaw, ← nextLine⟩
  | token => throw ⟨.unexpected token.description (some wanted), ← nextLine⟩

/-- Complain of the next token, in whose place another one is wanted. -/
def refuse {α : Type} (wanted : Option Text) : Reading α := do
  let line ← nextLine
  match ← next with
  | .flaw flaw => throw ⟨flaw, line⟩
  | token => throw ⟨.unexpected token.description wanted, line⟩

/-- Pass over the ends of lines. -/
def skipNewlines : Reading Unit :=
  modify fun tokens => tokens.dropWhile fun (token, _) => match token with
    | .newline => true
    | _ => false

/-- The reserved word that comes next. -/
def nextReserved? : Reading (Option String) := do return (← next).reserved?

/-- Pass over a reserved word, which has to come next. -/
def expect (word : String) : Reading Unit := do
  if (← nextReserved?) == some word then skip
  else refuse (some ('"' :: word.toList ++ ['"']))

/-- Whether a token ends a list of commands between others. -/
def Token.endsList (token : Token) : Bool :=
  match token with
  | .closing | .armEnd => true
  | token => token.reserved?.any fun reserved =>
      ["do", "done", "elif", "else", "esac", "fi", "then", "\x7d"].contains reserved

/-- The assignment that a word is: a name that is not quoted, an equals sign and a value. -/
def assignment? (word : Word) : Option (Text × Word) :=
  let isNamePiece (piece : Piece) : Bool := match piece with
    | .literal [c] false => isNameChar c
    | _ => false
  match word.dropWhile isNamePiece with
  | .literal ['='] false :: value =>
      match bareText? (word.takeWhile isNamePiece) with
      | some name => if isName name then some (name, value) else none
      | none => none
  | _ => none

/-- Read the redirection that comes next, if one does. -/
def readRedirection? : Reading (Option Redirection) := do
  match ← next with
  | .document stream content =>
      skip
      return some ⟨stream, .document, content⟩
  | .redirect stream kind =>
      skip
      match ← next with
      | .word word =>
          skip
          return some ⟨stream, kind, word⟩
      | _ => refuse none
  | _ => return none

/-- Read the redirections behind a command. Fuel bounds their number. -/
def readRedirections : Nat → Reading (List Redirection)
  | 0 => return []
  | fuel + 1 => do
      match ← readRedirection? with
      | none => return []
      | some redirection => return redirection :: (← readRedirections fuel)

/-- Read words up to another token. Fuel bounds their number. -/
def readWords : Nat → Reading (List Word)
  | 0 => return []
  | fuel + 1 => do
      match ← next with
      | .word word =>
          skip
          return word :: (← readWords fuel)
      | _ => return []

/-- Read the patterns of an arm, between which bars stand. Fuel bounds their number. -/
def readPatterns : Nat → Reading (List Word)
  | 0 => return []
  | fuel + 1 => do
      let pattern := match ← next with
        | .word word => word
        | _ => []
      skip
      match ← next with
      | .bar =>
          skip
          return pattern :: (← readPatterns fuel)
      | .closing =>
          skip
          return [pattern]
      | _ => refuseWord "\")\""

/-- A list with one more command in front. -/
def Command.before (first second : Command) : Command :=
  match second with
  | .nothing => first
  | second => .sequence first second

/-- A command with the redirections behind it. -/
def Command.withRedirections (command : Command) (line : Nat)
    (redirections : List Redirection) : Command :=
  if redirections.isEmpty then command else .redirected line command redirections

/-- The names that no function can have. -/
def specialNames : List String :=
  [".", ":", "break", "continue", "eval", "exec", "exit", "export", "local", "readonly", "return",
    "set", "shift", "times", "trap", "unset"]

mutual

/-- Read a list of commands. One that is a line ends with it; any other goes on over lines up to a
    token that ends it. Fuel bounds the depth of all that is read. -/
def readList : Nat → Bool → Bool → Reading Command
  | 0, _, _ => return .nothing
  | fuel + 1, isLine, isFirst => do
      if !isLine then skipNewlines
      match ← next with
      | .newline =>
          skip
          return .nothing
      | .finish => return .nothing
      | token =>
          if !isLine && !isFirst && token.endsList then return .nothing
          let command ← readChain fuel
          match ← next with
          | .ampersand =>
              skip
              return (Command.background command).before (← readList fuel isLine false)
          | .semicolon =>
              skip
              return command.before (← readList fuel isLine false)
          | .newline =>
              skip
              if isLine then return command
              return command.before (← readList fuel isLine false)
          | .finish => return command
          | _ => if isLine then refuse none else return command

/-- Read commands that hang on the outcome of one another. -/
def readChain : Nat → Reading Command
  | 0 => return .nothing
  | fuel + 1 => do readLinks fuel (← readPipes fuel)

/-- Read what hangs on the outcome of a command. -/
def readLinks : Nat → Command → Reading Command
  | 0, command => return command
  | fuel + 1, command => do
      match ← next with
      | .both =>
          skip
          skipNewlines
          readLinks fuel (.conjunction command (← readPipes fuel))
      | .either =>
          skip
          skipNewlines
          readLinks fuel (.disjunction command (← readPipes fuel))
      | _ => return command

/-- Read commands of which each reads what the one before puts out. -/
def readPipes : Nat → Reading Command
  | 0 => return .nothing
  | fuel + 1 => do
      if (← nextReserved?) == some "!" then
        skip
        return .negation (← readPipeRest fuel (← readCommand fuel))
      readPipeRest fuel (← readCommand fuel)

/-- Read the commands behind a pipe. -/
def readPipeRest : Nat → Command → Reading Command
  | 0, command => return command
  | fuel + 1, command => do
      match ← next with
      | .bar =>
          skip
          skipNewlines
          readPipeRest fuel (.pipe command (← readCommand fuel))
      | _ => return command

/-- Read one command with the redirections behind it. -/
def readCommand : Nat → Reading Command
  | 0 => return .nothing
  | fuel + 1 => do
      let line ← nextLine
      match ← next with
      | .opening =>
          skip
          let body ← readList fuel false true
          match ← next with
          | .closing =>
              skip
              return .subshell line body (← readRedirections fuel)
          | _ => refuse (some "\")\"")
      | .word .. | .redirect .. | .document .. =>
          match ← nextReserved? with
          | none => readSimple fuel line [] [] []
          | some reserved =>
              let command ← readCompound fuel line reserved
              return command.withRedirections line (← readRedirections fuel)
      | _ => refuse none

/-- Read a command that starts with a reserved word. -/
def readCompound : Nat → Nat → String → Reading Command
  | 0, _, _ => return .nothing
  | fuel + 1, line, reserved => do
      let isKnown := ["if", "while", "until", "for", "case", "\x7b"].contains reserved
      if isKnown then skip
      match reserved with
      | "if" =>
          let command ← readBranch fuel
          expect "fi"
          return command
      | "while" => readLoop fuel false
      | "until" => readLoop fuel true
      | "for" => readEach fuel line
      | "case" => readChoice fuel line
      | "\x7b" =>
          let command ← readList fuel false true
          expect "\x7d"
          return command
      | _ => refuse none

/-- Read a condition with what is done if it succeeds and if it does not. -/
def readBranch : Nat → Reading Command
  | 0 => return .nothing
  | fuel + 1 => do
      let condition ← readList fuel false true
      expect "then"
      let yes ← readList fuel false true
      match ← nextReserved? with
      | some "elif" =>
          skip
          return .branch condition yes (← readBranch fuel)
      | some "else" =>
          skip
          return .branch condition yes (← readList fuel false true)
      | _ => return .branch condition yes .nothing

/-- Read the condition and the body of a loop. -/
def readLoop : Nat → Bool → Reading Command
  | 0, _ => return .nothing
  | fuel + 1, isUntil => do
      let condition ← readList fuel false true
      return .loop isUntil condition (← readBody fuel)

/-- Read the body of a loop. -/
def readBody : Nat → Reading Command
  | 0 => return .nothing
  | fuel + 1 => do
      expect "do"
      let body ← readList fuel false true
      expect "done"
      return body

/-- Read a loop over words. -/
def readEach : Nat → Nat → Reading Command
  | 0, _ => return .nothing
  | fuel + 1, line => do
      let name? := match ← next with
        | .word word => (bareText? word).filter isName
        | _ => none
      match name? with
      | none => throw ⟨.loopVariable, ← nextLine⟩
      | some name =>
          skip
          skipNewlines
          let isStated := (← nextReserved?) == some "in"
          if isStated then skip
          let words ← if isStated then readWords fuel else pure []
          match ← next with
          | .semicolon => skip
          | .newline => skip
          | _ => if isStated then refuse none
          skipNewlines
          return .each line name (if isStated then some words else none) (← readBody fuel)

/-- Read a choice. -/
def readChoice : Nat → Nat → Reading Command
  | 0, _ => return .nothing
  | fuel + 1, line => do
      match ← next with
      | .word subject =>
          skip
          skipNewlines
          expect "in"
          return .choice line subject (← readArms fuel)
      | _ => refuse (some "word")

/-- Read the arms of a choice to its end. -/
def readArms : Nat → Reading (List (List Word × Command))
  | 0 => return []
  | fuel + 1 => do
      skipNewlines
      if (← nextReserved?) == some "esac" then
        skip
        return []
      match ← next with
      | .opening => skip
      | _ => pure ()
      let patterns ← readPatterns fuel
      let body ← readList fuel false false
      skipNewlines
      match ← next with
      | .armEnd =>
          skip
          return (patterns, body) :: (← readArms fuel)
      | token =>
          if token.reserved? == some "esac" then
            skip
            return [(patterns, body)]
          refuse (some "\";;\"")

/-- Read the rest of a simple command, of which a part has been read. A bracket behind its first
    word makes it a function. -/
def readSimple : Nat → Nat → List (Text × Word) → List Word → List Redirection → Reading Command
  | 0, _, _, _, _ => return .nothing
  | fuel + 1, line, assignments, words, redirections => do
      match ← next with
      | .word word =>
          skip
          match if words.isEmpty then assignment? word else none with
          | some assignment =>
              readSimple fuel line (assignments ++ [assignment]) words redirections
          | none => readSimple fuel line assignments (words ++ [word]) redirections
      | .opening =>
          match assignments, words, redirections with
          | [], [word], [] =>
              skip
              readFunction fuel word
          | _, _, _ => return .simple line assignments words redirections
      | .flaw _ => refuse none
      | _ =>
          match ← readRedirection? with
          | some redirection =>
              readSimple fuel line assignments words (redirections ++ [redirection])
          | none => return .simple line assignments words redirections

/-- Read the rest of a function, whose name has been read. -/
def readFunction : Nat → Word → Reading Command
  | 0, _ => return .nothing
  | fuel + 1, word => do
      match ← next with
      | .closing =>
          let name? := (bareText? word).filter fun name =>
            isName name && !specialNames.any (·.toList == name)
          match name? with
          | none => throw ⟨.functionName, ← nextLine⟩
          | some name =>
              skip
              skipNewlines
              return .definition name (← readCommand fuel)
      | _ => refuseWord "\")\""

end

/-- A part of a script: a command, with the line on which reading goes on after it, or a flaw. -/
inductive Part where
  | command (command : Command) (line : Nat)
  | flaw (complaint : Complaint)

/-- The line on which reading goes on after some tokens, of which the rest is still to be read. -/
def lineAfter (tokens rest : Tokens) : Nat :=
  ((tokens.take (tokens.length - rest.length)).getLast?.map (·.2)).getD 0

/-- The parts that tokens make up, the number of which is bounded. A part is read with fuel for as
    many steps as any tokens so many can take. -/
def partsOf : Nat → Tokens → List Part
  | 0, _ => []
  | bound + 1, tokens =>
      match tokens with
      | [] | (.finish, _) :: _ => []
      | (.newline, _) :: rest => partsOf bound rest
      | tokens =>
          match (readList (8 * tokens.length + 8) true true).run tokens with
          | .error complaint => [.flaw complaint]
          | .ok (command, rest) =>
              .command command (lineAfter tokens rest) :: partsOf bound rest

/-- The parts of a script that starts on a line, in order. -/
def parts (firstLine : Nat) (script : Text) : List Part :=
  let tokens := tokens firstLine script
  partsOf tokens.length tokens

end FfiBindings.Program.Script
