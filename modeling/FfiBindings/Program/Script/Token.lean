import FfiBindings.Program.Script.Word

/-!
# Tokens of shell scripts

A script is cut into words, redirections and the marks between commands. A document stands in the
lines after the one that asks for it; it is taken out from there and becomes part of the token that
asks. Every token carries the number of the line on which reading goes on after it.
-/

namespace FfiBindings.Program.Script

/-- How a redirection uses its word. -/
inductive Redirect where
  /-- The word names a file that starts out empty. -/
  | create
  /-- The word names a file that is added to. -/
  | append
  /-- The word names a file to be read. -/
  | input
  /-- The word is the number of the stream that is joined. -/
  | duplicate
  /-- The word is what is read. -/
  | document
  deriving Repr, DecidableEq

/-- What a script is made of. -/
inductive Token where
  | word (word : Word)
  /-- The next word says where a stream leads. -/
  | redirect (stream : Nat) (kind : Redirect)
  /-- A stream leads to a document. -/
  | document (stream : Nat) (content : Word)
  | newline
  | semicolon
  | ampersand
  /-- Two ampersands. -/
  | both
  /-- Two bars. -/
  | either
  | bar
  | opening
  | closing
  /-- Two semicolons. -/
  | armEnd
  /-- The end of the script. -/
  | finish
  /-- A place from which the script cannot be read. -/
  | flaw (flaw : Flaw)

/-- Tokens with the lines on which reading goes on after them. -/
abbrev Tokens := List (Token × Nat)

/-- The words that have a meaning of their own where a command starts. -/
def reservedWords : List String :=
  ["!", "case", "do", "done", "elif", "else", "esac", "fi", "for", "if", "in", "then", "until",
    "while", "\x7b", "\x7d"]

/-- The reserved word that a token is. -/
def Token.reserved? : Token → Option String
  | .word pieces => (bareText? pieces).bind fun text => reservedWords.find? (·.toList == text)
  | _ => none

/-- The token as complaints name it. -/
def Token.description (token : Token) : Text :=
  match token with
  | .word _ =>
      match token.reserved? with
      | some reserved => '"' :: reserved.toList ++ ['"']
      | none => "word"
  | .redirect .. | .document .. => "redirection"
  | .newline => "newline"
  | .semicolon => "\";\""
  | .ampersand => "\"&\""
  | .both => "\"&&\""
  | .either => "\"||\""
  | .bar => "\"|\""
  | .opening => "\"(\""
  | .closing => "\")\""
  | .armEnd => "\";;\""
  | .finish | .flaw _ => "end of file"

/-- The redirection that a text starts with: the stream that it is for if none is stated, its kind,
    and the rest of the text. -/
def readRedirect? : Text → Option (Nat × Redirect × Text)
  | '>' :: '>' :: rest => some (1, .append, rest)
  | '>' :: '&' :: rest => some (1, .duplicate, rest)
  | '>' :: '|' :: rest => some (1, .create, rest)
  | '>' :: rest => some (1, .create, rest)
  | '<' :: '&' :: rest => some (0, .duplicate, rest)
  | '<' :: '>' :: rest => some (0, .append, rest)
  | '<' :: '<' :: rest => some (0, .document, rest)
  | '<' :: rest => some (0, .input, rest)
  | _ => none

/-- The lines of a document up to the one that ends it, and the lines after that. -/
def splitDocument (delimiter : Text) (areTabsDropped : Bool) :
    List Text → List Text × List Text
  | [] => ([], [])
  | line :: lines =>
      let line := if areTabsDropped then line.dropWhile (· == '\t') else line
      if line == delimiter then ([], lines)
      else
        let (document, rest) := splitDocument delimiter areTabsDropped lines
        (line :: document, rest)

/-- Read what follows the mark of a document. The rest of the text has the document taken out. -/
def readDocumentToken (lastLine stream : Nat) (text : Text) : Token × Text :=
  let areTabsDropped := text.head? == some '-'
  let text := if areTabsDropped then text.drop 1 else text
  match readWord lastLine (text.dropWhile fun c => c == ' ' || c == '\t') with
  | .error flaw => (.flaw flaw, [])
  | .ok ([], rest) => (.redirect stream .document, rest)
  | .ok (word, rest) =>
      let (delimiter, isQuoted) := spelling word
      let line := rest.takeWhile (· != '\n')
      let lines := Text.split '\n' ((rest.dropWhile (· != '\n')).drop 1)
      let (document, after) := splitDocument delimiter areTabsDropped lines
      let content := document.flatMap (· ++ ['\n'])
      let rest := line ++ '\n' :: Text.join "\n" after
      if isQuoted then (.document stream [.literal content true], rest)
      else
        match readDocument (lastLine - after.length) content with
        | .error flaw => (.flaw flaw, [])
        | .ok content => (.document stream content, rest)

/-- Read a redirection for a stream, if one is stated. -/
def readStream? (lastLine : Nat) (stated : Option Nat) (text : Text) : Option (Token × Text) :=
  (readRedirect? text).map fun (stream, kind, rest) =>
    let stream := stated.getD stream
    if kind == .document then readDocumentToken lastLine stream rest else (.redirect stream kind, rest)

/-- The token that a text starts with, which ends on a line, and the rest of the text. Blanks and
    comments give none. -/
def readToken (lastLine : Nat) (c : Char) (rest : Text) : Option Token × Text :=
  let single (token : Token) : Option Token × Text := (some token, rest)
  let double (token : Token) : Option Token × Text := (some token, rest.drop 1)
  let isTwice := rest.head? == some c
  if c == ' ' || c == '\t' then (none, rest)
  else if c == '\\' && rest.head? == some '\n' then (none, rest.drop 1)
  else if c == '#' then (none, rest.dropWhile (· != '\n'))
  else if c == '\n' then single .newline
  else if c == ';' then if isTwice then double .armEnd else single .semicolon
  else if c == '&' then if isTwice then double .both else single .ampersand
  else if c == '|' then if isTwice then double .either else single .bar
  else if c == '(' then single .opening
  else if c == ')' then single .closing
  else
    let redirected? :=
      if c.isDigit then readStream? lastLine (some (c.toNat - '0'.toNat)) rest
      else readStream? lastLine none (c :: rest)
    match redirected? with
    | some (token, rest) => (some token, rest)
    | none =>
        match readWord lastLine (c :: rest) with
        | .error flaw => (some (.flaw flaw), [])
        | .ok (word, rest) => (some (.word word), rest)

/-- The tokens of a text that ends on a line, each with the line on which reading goes on. A token
    that took up nothing takes up one character, so the text gets shorter in any case. -/
def readTokens (lastLine : Nat) (text : Text) : Tokens :=
  match text with
  | [] => []
  | c :: text =>
      let read := readToken lastLine c text
      let rest := if read.2.length ≤ text.length then read.2 else text
      (read.1.map (·, lastLine - rest.count '\n')).toList ++ readTokens lastLine rest
termination_by text.length
decreasing_by
  simp_wf
  split <;> omega

/-- The tokens of a script that starts on a line. -/
def tokens (firstLine : Nat) (script : Text) : Tokens :=
  let lastLine := firstLine + script.count '\n'
  let read := readTokens lastLine script
  let isBroken := read.any fun (token, _) => match token with
    | .flaw _ => true
    | _ => false
  read ++ if isBroken then [] else [(.finish, lastLine)]

end FfiBindings.Program.Script
