import FfiBindings.Program.Script.Expression
import FfiBindings.Program.Script.Pattern
import FfiBindings.Program.Script.State

/-!
# What the words of a script come to

A word comes to fields: the values of its parameters, the output of its scripts and the numbers of
its expressions are put in, and where nothing quotes them, blanks in them part fields. Fields with
patterns become the names of the files that match. How a script in a word is run, which
starts on a line, is a parameter.
-/

namespace FfiBindings.Program.Script

/-- Fields that a word comes to, as far as they are complete, and the one at work. Fields and the
    characters of the one at work stand with the last one first; each character has whether it is
    quoted. -/
structure Fields where
  complete : List Pattern
  current : Option Pattern
  /-- Whether the last field was completed by a blank. -/
  isAfterBlank : Bool

namespace Fields

/-- No fields. -/
def none : Fields := ⟨[], Option.none, false⟩

/-- Add text to the field at work, which there is one of then in any case. -/
def extend (fields : Fields) (isQuoted : Bool) (text : Text) : Fields :=
  { fields with
    current := some ((text.map (·, isQuoted)).reverse ++ fields.current.getD [])
    isAfterBlank := false }

/-- Complete the field at work. -/
def close (fields : Fields) : Fields :=
  match fields.current with
  | some field => { fields with complete := field.reverse :: fields.complete, current := .none }
  | .none => fields

/-- Take one character of text in which separators part the fields. Blanks around a separator go
    with it, and any other separator ends a field even if there is nothing in it. -/
def takeChar (separators : Text) (fields : Fields) (c : Char) : Fields :=
  if !separators.contains c then fields.extend false [c]
  else if c == ' ' || c == '\t' || c == '\n' then
    if fields.current.isSome then { fields.close with isAfterBlank := true } else fields
  else if fields.current.isNone && fields.isAfterBlank then { fields with isAfterBlank := false }
  else { (fields.extend false []).close with isAfterBlank := false }

/-- Add text in which separators part the fields. -/
def extendSplit (separators : Text) (fields : Fields) (text : Text) : Fields :=
  text.foldl (takeChar separators) fields

/-- Add texts that are parted from one another. -/
def extendEach (add : Fields → Text → Fields) (fields : Fields) : List Text → Fields
  | [] => fields
  | [text] => add fields text
  | text :: texts => extendEach add (add fields text).close texts

/-- The fields, complete. -/
def toList (fields : Fields) : List Pattern := fields.close.complete.reverse

/-- The characters of the field at work. -/
def pattern (fields : Fields) : Pattern := (fields.current.getD []).reverse

/-- The text of the field at work. -/
def text (fields : Fields) : Text := fields.pattern.map (·.1)

end Fields

/-- The characters that part fields. -/
def State.separators (state : State) : Text := (state.valueOf? "IFS").getD " \t\n"

/-- The parameter as a script spells it. -/
def Parameter.name : Parameter → Text
  | .arguments => "@"
  | .argumentText => "*"
  | .argumentCount => "#"
  | .status => "?"
  | .process => "$"
  | .background => "!"
  | .settings => "-"
  | .position index => Text.decimal index
  | .variable name => name

/-- The number that a variable stands for. One without a value stands for zero. -/
def variableNumber (name : Text) : Act Int := do
  match (← get).valueOf? name with
  | none | some [] => return 0
  | some text =>
      match readInteger? true text with
      | some (value, rest) =>
          if rest.all isSpace && smallest ≤ value && value ≤ largest then return value
          failForGood ("Illegal number: " ++ text)
      | none => failForGood ("Illegal number: " ++ text)

/-- Complain of an expression. -/
def refuseExpression {α : Type} (source : Text) (text : String) : Act α :=
  failForGood ("arithmetic expression: ".toList ++ text.toList ++ ": \"".toList ++ source ++ ['"'])

/-- What an operator makes of two numbers in an expression. -/
def operate (source : Text) (operator : String) (a b : Int) : Act Int :=
  match applyBinary? operator a b with
  | some value => pure value
  | none => refuseExpression source "division by zero"

/-- What an expression comes to. Of two operands the second may be left out if the first decides. -/
def Expression.value (source : Text) : Expression → Act Int
  | .number value => pure value
  | .variable name => variableNumber name
  | .unary operator operand => return applyUnary operator (← operand.value source)
  | .binary operator left right => do
      let a ← left.value source
      if operator == "&&" && a == 0 then return 0
      if operator == "||" && a != 0 then return 1
      operate source operator a (← right.value source)
  | .conditional condition yes no => do
      if (← condition.value source) != 0 then yes.value source else no.value source
  | .assignment name operator value => do
      let value ← value.value source
      let value ← match operator with
        | none => pure value
        | some operator => operate source operator (← variableNumber name) value
      assign name (decimalOf value)
      return value

/-- Add a text to fields, where blanks may part it. -/
def addText (splits isQuoted : Bool) (fields : Fields) (text : Text) : Act Fields := do
  if isQuoted || !splits then return fields.extend isQuoted text
  return fields.extendSplit (← get).separators text

/-- Add the value of a parameter, each text of which is changed first. -/
def addValue (splits isQuoted : Bool) (change : Text → Text) (parameter : Parameter)
    (fields : Fields) : Act Fields := do
  let state ← get
  let texts := state.arguments.map change
  let separators := state.separators
  let add (fields : Fields) (text : Text) : Fields :=
    if isQuoted then fields.extend true text else fields.extendSplit separators text
  match parameter with
  | .arguments =>
      if splits then return Fields.extendEach add fields texts
      return fields.extend isQuoted (Text.join " " texts)
  | .argumentText =>
      if splits && !isQuoted then return Fields.extendEach add fields texts
      return fields.extend isQuoted (Text.join (separators.take 1) texts)
  | parameter => addText splits isQuoted fields (change ((state.value? parameter).getD []))

mutual

/-- Add what a piece comes to. In a word that belongs to a parameter, blanks part its text too. -/
def expandPiece (runScript : Nat → Text → Act Text) (splits isOperand : Bool) :
    Piece → Fields → Act Fields
  | .literal text isQuoted, fields =>
      if isOperand then addText splits isQuoted fields text
      else return fields.extend isQuoted text
  | .output firstLine script isQuoted, fields => do
      addText splits isQuoted fields (← runScript firstLine script)
  | .number expression isQuoted, fields => do
      let source := (← expandPieces runScript false false expression .none).text
      match parseExpression source with
      | .error text => refuseExpression source text
      | .ok expression =>
          addText splits isQuoted fields (decimalOf (← expression.value source))
  | .value reference operand isQuoted, fields => do
      let state ← get
      let parameter := reference.parameter
      let isMissing := match state.value? parameter with
        | none => true
        | some value => reference.isEmptyMissing && value.isEmpty
      let fields := if isQuoted && parameter != .arguments then fields.extend true [] else fields
      let add (change : Text → Text) : Act Fields := do
        let isList := parameter == .arguments || parameter == .argumentText ||
          parameter == .background
        if isMissing && state.settings.refusesUnset && !isList then
          failForGood (parameter.name ++ ": parameter not set")
        addValue splits isQuoted change parameter fields
      match reference.use with
      | .value => add id
      | .length =>
          let value := (state.value? parameter).getD []
          if isMissing && state.settings.refusesUnset then
            failForGood (parameter.name ++ ": parameter not set")
          addText splits isQuoted fields (Text.decimal value.length)
      | .fallback =>
          if isMissing then expandPieces runScript splits true operand fields else add id
      | .alternative =>
          if isMissing then return fields else expandPieces runScript splits true operand fields
      | .assignment =>
          if !isMissing then add id
          else
            let text := (← expandPieces runScript false true operand .none).text
            match parameter with
            | .variable name =>
                assign name text
                addText splits isQuoted fields text
            | parameter => failForGood (parameter.name ++ ": bad variable name")
      | .demand =>
          if !isMissing then add id
          else
            let text := (← expandPieces runScript false true operand .none).text
            let text :=
              if !operand.isEmpty then text
              else if reference.isEmptyMissing then "parameter not set or null"
              else "parameter not set"
            failForGood (parameter.name ++ ": ".toList ++ text)
      | .cut isAtStart isLongest =>
          let pattern := (← expandPieces runScript false true operand .none).pattern
          add (pattern.cut isAtStart isLongest)
      | .unknown => failForGood "Bad substitution"

/-- Add what pieces come to. -/
def expandPieces (runScript : Nat → Text → Act Text) (splits isOperand : Bool) :
    List Piece → Fields → Act Fields
  | [], fields => return fields
  | piece :: pieces, fields => do
      expandPieces runScript splits isOperand pieces
        (← expandPiece runScript splits isOperand piece fields)

end

/-- Put the home directory in for a tilde that stands at the start of a word, before its end or a
    slash. In the value of a variable, a tilde may stand behind a colon as well. -/
def expandTilde (home? : Option Text) (isValue isStart : Bool) : Word → Word
  | [] => []
  | piece :: word =>
      let endsTilde (next : Piece) : Bool := match next with
        | .literal [c] false => c == '/' || (c == ':' && isValue)
        | _ => false
      match piece, home? with
      | .literal ['~'] false, some home =>
          let isTilde := isStart && word.head?.all endsTilde
          let piece := if isTilde then .literal home true else piece
          piece :: expandTilde home? isValue false word
      | .literal [':'] false, _ => piece :: expandTilde home? isValue isValue word
      | _, _ => piece :: expandTilde home? isValue false word

/-- Cut a pattern at its slashes. -/
def Pattern.components : Pattern → List Pattern
  | [] => [[]]
  | (c, isQuoted) :: rest =>
      if c == '/' then [] :: components rest
      else
        match components rest with
        | [] => [[(c, isQuoted)]]
        | first :: others => ((c, isQuoted) :: first) :: others

/-- The names in a directory that a pattern matches, in order. A name with a full stop in front is
    matched by such a pattern only. -/
def State.namesMatching (state : State) (directory : Text) (pattern : Pattern) : List Text :=
  let path := if directory.isEmpty then ".".toList else directory
  match state.files.locate state.directory ⟨toBytes path⟩ with
  | .error _ => []
  | .ok place =>
      let names := ".".toList :: "..".toList :: (state.files.names place).map ofBytes
      let isMatch (name : Text) : Bool :=
        pattern.isMatch name && (name.head? != some '.' || pattern.head?.any (·.1 == '.'))
      if state.files.isDirectory place then
        (names.filter isMatch).mergeSort Text.isAtMost
      else []

/-- The paths that components of a pattern match, behind a path. -/
def State.pathsMatching (state : State) (path : Text) : List Pattern → List Text
  | [] => [path]
  | [last] =>
      if last.isWild then (state.namesMatching path last).map (path ++ ·)
      else
        let path := path ++ last.map (·.1)
        if (state.entryAt? path).isSome then [path] else []
  | pattern :: patterns =>
      if pattern.isWild then
        (state.namesMatching path pattern).flatMap fun name =>
          if state.entryAt? (path ++ name) == some .directory then
            state.pathsMatching (path ++ name ++ ['/']) patterns
          else []
      else state.pathsMatching (path ++ pattern.map (·.1) ++ ['/']) patterns

/-- The texts that a field stands for: the paths that match it, or else itself. -/
def State.textsOf (state : State) (field : Pattern) : List Text :=
  let text := field.map (·.1)
  if state.settings.keepsPatterns || !field.isWild then [text]
  else
    match state.pathsMatching [] field.components with
    | [] => [text]
    | paths => paths

/-- The texts that a word comes to. -/
def textsOfWord (runScript : Nat → Text → Act Text) (word : Word) : Act (List Text) := do
  let word := expandTilde ((← get).valueOf? "HOME") false true word
  let fields ← expandPieces runScript true false word .none
  return fields.toList.flatMap (← get).textsOf

/-- The pattern that a word comes to where only one field is wanted. -/
def patternOfWord (runScript : Nat → Text → Act Text) (isValue : Bool) (word : Word) : Act Pattern := do
  let word := expandTilde ((← get).valueOf? "HOME") isValue true word
  return (← expandPieces runScript false false word .none).pattern

/-- The text that a word comes to where only one is wanted. -/
def textOfWord (runScript : Nat → Text → Act Text) (isValue : Bool) (word : Word) : Act Text := do
  return (← patternOfWord runScript isValue word).map (·.1)

end FfiBindings.Program.Script
