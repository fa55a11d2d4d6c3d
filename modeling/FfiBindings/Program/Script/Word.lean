import FfiBindings.Text.Basic

/-!
# Words of shell scripts

A script is read byte by byte, so every character here stands for the byte of its number. A word is
a row of pieces: text to be taken as it is, and parameters, commands and expressions to be replaced
by what they come to. Quotes decide which is which; once a word has been read, all that is left of
them is a mark on the pieces between them.
-/

namespace FfiBindings.Program.Script

/-- Something that a word can refer to by a dollar sign. -/
inductive Parameter where
  /-- The arguments, each of them a field of its own between double quotes. -/
  | arguments
  /-- The arguments in one text. -/
  | argumentText
  | argumentCount
  /-- The exit code of the last command. -/
  | status
  /-- The number of the process that runs the script. -/
  | process
  /-- The number of the last process in the background. -/
  | background
  /-- The letters of the settings. -/
  | settings
  /-- The argument at a position; at position zero, the name of the script. -/
  | position (index : Nat)
  | variable (name : Text)
  deriving Repr, DecidableEq

/-- What a word does with a parameter. -/
inductive Use where
  | value
  | length
  /-- Another word stands in for a value that is missing. -/
  | fallback
  /-- Another word becomes the value if there is none. -/
  | assignment
  /-- Another word takes the place of a value that is there. -/
  | alternative
  /-- The script ends if the value is missing. -/
  | demand
  /-- The part of the value that matches a pattern is cut off at one end. -/
  | cut (isAtStart isLongest : Bool)
  /-- Something that no parameter is used for. -/
  | unknown
  deriving Repr, DecidableEq

/-- A parameter and its use. -/
structure Reference where
  parameter : Parameter
  use : Use
  /-- Whether an empty value counts as missing. -/
  isEmptyMissing : Bool
  deriving Repr, DecidableEq

/-- A piece of a word. -/
inductive Piece where
  | literal (text : Text) (isQuoted : Bool)
  /-- A parameter, with the word that its use asks for. -/
  | value (reference : Reference) (operand : List Piece) (isQuoted : Bool)
  /-- What a script puts out that starts on a line. -/
  | output (firstLine : Nat) (script : Text) (isQuoted : Bool)
  /-- The number that an expression comes to. -/
  | number (expression : List Piece) (isQuoted : Bool)

/-- A word of a script. -/
abbrev Word := List Piece

/-- Why a script cannot be read. -/
inductive Flaw where
  | openQuote
  | openBrace
  | openBackquote
  | openExpression
  /-- A token that does not belong where it stands, and the one that does. -/
  | unexpected (found : Text) (wanted : Option Text)
  | loopVariable
  | functionName
  | streamNumber
  deriving Repr, DecidableEq

/-- The flaw in words. -/
def Flaw.message (flaw : Flaw) : Text :=
  "Syntax error: ".toList ++
    match flaw with
    | .openQuote => "Unterminated quoted string"
    | .openBrace => "Missing '\x7d'"
    | .openBackquote => "EOF in backquote substitution"
    | .openExpression => "Missing '))'"
    | .unexpected found none => found ++ " unexpected"
    | .unexpected found (some wanted) => found ++ " unexpected (expecting " ++ wanted ++ ")"
    | .loopVariable => "Bad for loop variable"
    | .functionName => "Bad function name"
    | .streamNumber => "Bad fd number"

/-- Whether a name can start with the character. -/
def isNameStart (c : Char) : Bool := c.isAlpha || c == '_'

/-- Whether a name can go on with the character. -/
def isNameChar (c : Char) : Bool := c.isAlphanum || c == '_'

/-- Whether the text is the name of a variable. -/
def isName (text : Text) : Bool := text.head?.any isNameStart && text.all isNameChar

/-- The parameter that a single character refers to. -/
def parameterOfChar? : Char → Option Parameter
  | '@' => some .arguments
  | '*' => some .argumentText
  | '#' => some .argumentCount
  | '?' => some .status
  | '$' => some .process
  | '!' => some .background
  | '-' => some .settings
  | c => if c.isDigit then some (.position (c.toNat - '0'.toNat)) else none

/-- The parameter that a text between braces starts with, and what follows it there. -/
def readParameter? : Text → Option (Parameter × Text)
  | [] => none
  | c :: rest =>
      if isNameStart c then
        some (.variable (c :: rest.takeWhile isNameChar), rest.dropWhile isNameChar)
      else if c.isDigit then
        let digits := c :: rest.takeWhile Char.isDigit
        let index := digits.foldl (fun n d => n * 10 + (d.toNat - '0'.toNat)) 0
        some (.position index, rest.dropWhile Char.isDigit)
      else (parameterOfChar? c).map fun parameter => (parameter, rest)

/-- The use that stands behind a parameter, whether an empty value counts as missing for it, and
    what follows. A brace that closes is left in place. -/
def readUse (text : Text) : Use × Bool × Text :=
  let useOfChar? : Char → Option Use
    | '-' => some .fallback
    | '=' => some .assignment
    | '+' => some .alternative
    | '?' => some .demand
    | _ => none
  match text with
  | '}' :: _ => (.value, false, text)
  | ':' :: '}' :: rest => (.value, false, '}' :: rest)
  | ':' :: c :: rest =>
      match useOfChar? c with
      | some use => (use, true, rest)
      | none => (.unknown, false, rest)
  | '#' :: '#' :: rest => (.cut true true, false, rest)
  | '#' :: rest => (.cut true false, false, rest)
  | '%' :: '%' :: rest => (.cut false true, false, rest)
  | '%' :: rest => (.cut false false, false, rest)
  | c :: rest =>
      match useOfChar? c with
      | some use => (use, false, rest)
      | none => (.unknown, false, rest)
  | [] => (.unknown, false, [])

/-- The parameter and its use that a text right behind an opening brace states, and what follows. A
    number sign asks for the length of what stands behind it, unless nothing does. -/
def readReference (text : Text) : Reference × Text :=
  let measured? : Option (Reference × Text) :=
    match text with
    | '#' :: rest =>
        match readParameter? rest with
        | some (parameter, '}' :: rest) => some (⟨parameter, .length, false⟩, '}' :: rest)
        | _ => none
    | _ => none
  measured?.getD <|
    match readParameter? text with
    | some (parameter, rest) =>
        let (use, isEmptyMissing, rest) := readUse rest
        (⟨parameter, use, isEmptyMissing⟩, rest)
    | none => (⟨.argumentCount, .unknown, false⟩, text)

/-- How a stretch of text is quoted. -/
inductive Quoting where
  | bare
  /-- Between double quotes that were opened in the stretch. -/
  | double
  /-- In braces that stand between double quotes as a whole. -/
  | inherited
  /-- In a document, where a double quote is a character like others. -/
  | document
  deriving Repr, DecidableEq

/-- Whether the character ends a word, unless it is quoted. -/
def endsWord (c : Char) : Bool := " \t\n;&|<>()".toList.contains c

/-- Whether a backslash in quoted text takes the meaning from the character. -/
def isEscapable (quoting : Quoting) (isEnclosed : Bool) (c : Char) : Bool :=
  c == '$' || c == '\\' || c == '\x60' || (c == '"' && (quoting != .document || isEnclosed)) ||
    (c == '}' && isEnclosed)

/-- Whether the text starts with a word as a whole. -/
def startsWithWord (word : String) (text : Text) : Bool :=
  word.toList.isPrefixOf text && (text.drop word.length).head?.all endsWord

/-- The words behind which a command can start. -/
def leadingWords : List String :=
  ["!", "do", "elif", "else", "if", "then", "until", "while", "\x7b"]

/-- What a scan for the end of a nested script stands in. -/
inductive Passage where
  /-- Whether a word could start here, and whether that would be the name of a command. -/
  | plain (isWord isCommand : Bool)
  | single
  | double
  | comment
  deriving Repr, DecidableEq

/-- Something in a nested script that is to be closed. -/
inductive Enclosure where
  | bracket
  /-- A choice, the patterns of which end with closing brackets. -/
  | choice
  deriving Repr, DecidableEq

/-- Cut a text at the bracket that closes the script at its start, within which some things are
    open. -/
def splitScript (enclosures : List Enclosure) (passage : Passage) : Text → Option (Text × Text)
  | [] => none
  | [c] =>
      match passage with
      | .plain .. => if c == ')' && enclosures.isEmpty then some ([], []) else none
      | _ => none
  | c :: d :: rest =>
      let goOn (enclosures : List Enclosure) (passage : Passage) : Option (Text × Text) :=
        (splitScript enclosures passage (d :: rest)).map fun (script, rest) => (c :: script, rest)
      let skip (passage : Passage) : Option (Text × Text) :=
        (splitScript enclosures passage rest).map fun (script, rest) => (c :: d :: script, rest)
      match passage with
      | .single => goOn enclosures (if c == '\'' then .plain false false else .single)
      | .comment => goOn enclosures (if c == '\n' then .plain true true else .comment)
      | .double =>
          if c == '\\' then skip .double
          else goOn enclosures (if c == '"' then .plain false false else .double)
      | .plain isWord isCommand =>
          let starts (word : String) : Bool := isWord && startsWithWord word (c :: d :: rest)
          if c == '\\' then skip (.plain false false)
          else if c == '\'' then goOn enclosures .single
          else if c == '"' then goOn enclosures .double
          else if c == '#' && isWord then goOn enclosures .comment
          else if c == '(' then goOn (.bracket :: enclosures) (.plain true true)
          else if c == ')' then
            match enclosures with
            | [] => some ([], d :: rest)
            | .bracket :: enclosures => goOn enclosures (.plain true true)
            | .choice :: _ => goOn enclosures (.plain true true)
          else if c == ' ' || c == '\t' then goOn enclosures (.plain true isCommand)
          else if endsWord c then goOn enclosures (.plain true true)
          else if isCommand && starts "case" then
            goOn (.choice :: enclosures) (.plain false false)
          else if isCommand && enclosures.head? == some .choice && starts "esac" then
            goOn enclosures.tail (.plain false false)
          else
            goOn enclosures (.plain false
              (isCommand && (!isWord || leadingWords.any starts)))

/-- Cut a text at the two brackets that close the expression at its start, with so many brackets
    open within it. -/
def splitExpression (depth : Nat) : Text → Option (Text × Text)
  | [] => none
  | c :: rest =>
      let goOn (depth : Nat) : Option (Text × Text) :=
        (splitExpression depth rest).map fun (expression, rest) => (c :: expression, rest)
      if c == '(' then goOn (depth + 1)
      else if c == ')' then
        match depth, rest with
        | 0, ')' :: rest => some ([], rest)
        | 0, _ => none
        | depth + 1, _ => goOn depth
      else goOn depth

/-- Cut a text at the backquote that closes the script at its start. Backslashes that protect
    characters from the outer script are gone from the inner one. -/
def splitBackquoted (isQuoted : Bool) : Text → Option (Text × Text)
  | [] => none
  | '\x60' :: rest => some ([], rest)
  | '\\' :: c :: rest =>
      (splitBackquoted isQuoted rest).map fun (script, rest) =>
        if c == '\\' || c == '$' || c == '\x60' || (c == '"' && isQuoted) then (c :: script, rest)
        else ('\\' :: c :: script, rest)
  | c :: rest => (splitBackquoted isQuoted rest).map fun (script, rest) => (c :: script, rest)

/-- The pieces that a text starts with, and the rest of it. Between braces they reach to the brace
    that closes, and else to the end of the word. The text ends on the line that is given. Fuel bounds
    the number of pieces; each takes up at least one character. -/
def readPieces (lastLine : Nat) : Nat → Quoting → Bool → Text → Except Flaw (Word × Text)
  | 0, _, _, text => .ok ([], text)
  | fuel + 1, quoting, isEnclosed, text =>
      let isQuoted := quoting != .bare
      let behind (piece : Piece) (quoting : Quoting) (rest : Text) : Except Flaw (Word × Text) := do
        let (word, rest) ← readPieces lastLine fuel quoting isEnclosed rest
        return (piece :: word, rest)
      match text with
      | [] =>
          if quoting == .double || quoting == .inherited then .error .openQuote
          else if isEnclosed then .error .openBrace
          else .ok ([], [])
      | ['\\'] => .ok ([.literal ['\\'] true], [])
      | '\\' :: '\n' :: rest => readPieces lastLine fuel quoting isEnclosed rest
      | '\\' :: c :: rest =>
          if isQuoted && !isEscapable quoting isEnclosed c then
            behind (.literal ['\\', c] true) quoting rest
          else behind (.literal [c] true) quoting rest
      | '$' :: '(' :: '(' :: rest =>
          match splitExpression 0 rest with
          | none => .error .openExpression
          | some (expression, rest) => do
              let lastLine := lastLine - rest.count '\n'
              let (expression, _) ← readPieces lastLine fuel .document false expression
              behind (.number expression isQuoted) quoting rest
      | '$' :: '(' :: rest =>
          match splitScript [] (.plain true true) rest with
          | none => .error (.unexpected "end of file" (some "\")\""))
          | some (script, rest) =>
              let line := lastLine - (script.count '\n' + rest.count '\n')
              behind (.output line script isQuoted) quoting rest
      | '$' :: '{' :: rest =>
          let (reference, rest) := readReference rest
          let take (quoting' : Quoting) : Except Flaw (Word × Text) := do
            let (operand, rest) ← readPieces lastLine fuel quoting' true rest
            behind (.value reference operand isQuoted) quoting rest
          match reference.use with
          | .value | .length => behind (.value reference [] isQuoted) quoting (rest.drop 1)
          | .cut .. => take .bare
          | _ => take (if isQuoted then .inherited else .bare)
      | '$' :: c :: rest =>
          let plain (parameter : Parameter) : Piece :=
            .value ⟨parameter, .value, false⟩ [] isQuoted
          if isNameStart c then
            behind (plain (.variable (c :: rest.takeWhile isNameChar))) quoting
              (rest.dropWhile isNameChar)
          else
            match parameterOfChar? c with
            | some parameter => behind (plain parameter) quoting rest
            | none => behind (.literal ['$'] isQuoted) quoting (c :: rest)
      | '\x60' :: rest =>
          match splitBackquoted isQuoted rest with
          | none => .error .openBackquote
          | some (script, rest) => behind (.output 1 script isQuoted) quoting rest
      | '"' :: rest =>
          match quoting with
          | .double => readPieces lastLine fuel .bare isEnclosed rest
          | .inherited => readPieces lastLine fuel .inherited isEnclosed rest
          | .document => behind (.literal ['"'] true) .document rest
          | .bare =>
              if rest.head? == some '"' then behind (.literal [] true) .bare (rest.drop 1)
              else readPieces lastLine fuel .double isEnclosed rest
      | c :: rest =>
          if quoting == .bare && c == '\'' then
            match rest.dropWhile (· != '\'') with
            | _ :: after => behind (.literal (rest.takeWhile (· != '\'')) true) .bare after
            | [] => .error .openQuote
          else if isEnclosed && quoting != .double && c == '}' then .ok ([], rest)
          else if quoting == .bare && !isEnclosed && endsWord c then .ok ([], c :: rest)
          else behind (.literal [c] isQuoted) quoting rest

/-- The pieces of the word that a text starts with, which ends on a line, and the rest of the text.
    The lines of a script between backquotes are counted anew. -/
def readWord (lastLine : Nat) (text : Text) : Except Flaw (Word × Text) :=
  readPieces lastLine (text.length + 1) .bare false text

/-- The pieces of a document, which ends on a line. Its end is the only thing that can end it. -/
def readDocument (lastLine : Nat) (text : Text) : Except Flaw Word := do
  return (← readPieces lastLine (text.length + 1) .document false text).1

/-- The text that a word spells without regard to what it refers to, and whether any of it is
    quoted. -/
def spelling (word : Word) : Text × Bool :=
  word.foldl (fun (text, isQuoted) piece => match piece with
    | .literal more isMoreQuoted => (text ++ more, isQuoted || isMoreQuoted)
    | _ => (text, isQuoted)) ([], false)

/-- The text of a word without quotes and references. -/
def bareText? (word : Word) : Option Text :=
  word.foldlM (fun text piece => match piece with
    | .literal more false => some (text ++ more)
    | _ => none) []

end FfiBindings.Program.Script
