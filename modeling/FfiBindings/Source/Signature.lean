import FfiBindings.Source.Declaration
import FfiBindings.Text.Blank
import FfiBindings.Text.Word
import FfiBindings.Text.Bracket

/-!
# Signatures on one line

A declaration is read from a single line: the word `func`, a name, a parameter list in balanced
brackets, and whatever follows. Parameters are separated by commas without regard to brackets
inside the list, and one without a type shares that of the nearest later one that has it.
-/

namespace FfiBindings.Source

/-- The three parts of a declaration line: the name, the text between the parentheses of the
    parameter list, and all that follows the list. -/
structure Head where
  name : Text
  parameters : Text
  result : Text
  deriving Repr, DecidableEq

/-- Split a declaration line into its parts, if it has that shape. -/
def splitDeclaration? (line : Text) : Option Head := do
  let afterKeyword ← List.isPrefixOf? ("func" : Text) line
  guard (afterKeyword.head?.any Text.isBlank)
  let fromName := Text.trimStart afterKeyword
  let name := fromName.takeWhile Text.isWord
  guard (!name.isEmpty)
  let list ← List.isPrefixOf? ("(" : Text) (Text.trimStart (fromName.dropWhile Text.isWord))
  let (parameters, result) ← Bracket.splitAtClose 0 list
  return { name, parameters, result }

/-- One segment of a parameter list: a name, and the type when the segment states one. -/
structure Segment where
  name : Text
  type : Option Text
  deriving Repr, DecidableEq

/-- Read one segment: the first field is the name and the others, joined by single spaces, are the
    type. A blank segment stands for nothing. -/
def Segment.parse? (text : Text) : Option Segment :=
  match Text.fields text with
  | [] => none
  | [name] => some { name, type := none }
  | name :: words => some { name, type := some (Text.join " " words) }

/-- The segments of a parameter list, blank ones left out. -/
def segments (list : Text) : List Segment :=
  (Text.split ',' list).filterMap Segment.parse?

/-- The type that a parameter in front of these segments would share. -/
def sharedType? : List Segment → Option Text
  | [] => none
  | segment :: rest => segment.type <|> sharedType? rest

/-- Give every segment its own type or the shared one. The error names the first parameter that
    has neither. -/
def resolveTypes : List Segment → Except Text (List Parameter)
  | [] => .ok []
  | segment :: rest =>
      match sharedType? (segment :: rest) with
      | none => .error segment.name
      | some type => do
          let parameters ← resolveTypes rest
          return { name := segment.name, type } :: parameters

/-- The parameters of the function `function` declared on a line. -/
def parseParameters (list function : Text) (line : Nat) :
    Except ExtractionError (List Parameter) :=
  match resolveTypes (segments list) with
  | .ok parameters => .ok parameters
  | .error parameter => .error (.untypedParameter function parameter line)

/-- The result type of a function that states none. -/
def voidType : Text := "void"

/-- The text without its last character, where that is `c`. -/
def dropLast (c : Char) (text : Text) : Text :=
  if text.getLast? == some c then text.dropLast else text

/-- The text without its first character, where that is `c`. -/
def dropFirst (c : Char) : Text → Text
  | [] => []
  | first :: rest => if first == c then rest else first :: rest

/-- Read the result type from what follows the parameter list: the body and one parenthesis on
    each side are dropped, so that several results stay one type text. -/
def parseResult (text : Text) : Text :=
  let declared := Text.trim (text.takeWhile (· != '\x7b'))
  let bare := Text.trim (dropLast ')' (dropFirst '(' declared))
  if bare.isEmpty then voidType else bare

end FfiBindings.Source
