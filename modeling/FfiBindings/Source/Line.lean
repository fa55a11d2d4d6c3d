import FfiBindings.Text.Blank
import FfiBindings.Text.Word

/-!
# Kinds of source lines

Every line of a source is told apart by its trimmed text alone. A marker needs a name; `//export`
without one, like any `//go:` line, addresses the tools and documents nothing.
-/

namespace FfiBindings.Source

/-- What a trimmed source line is. -/
inductive LineKind where
  /-- An export marker with the name it announces. -/
  | marker (name : Text)
  /-- A comment line addressed to tools. -/
  | directive
  /-- Any other comment line, with its trimmed text. -/
  | comment (text : Text)
  /-- A line that starts a function declaration. -/
  | function
  | blank
  | other
  deriving Repr, DecidableEq

/-- The name that a marker line announces: the word after `//export` and at least one blank. -/
def markerName? (line : Text) : Option Text := do
  let after ← List.isPrefixOf? ("//export" : Text) line
  guard (after.head?.any Text.isBlank)
  let name := (Text.trimStart after).takeWhile Text.isWord
  guard (!name.isEmpty)
  return name

/-- Whether a comment line is addressed to tools: a `//go:` line, or `//export` as a whole word. -/
def isDirective (line : Text) : Bool :=
  List.isPrefixOf ("//go:" : Text) line ||
    match List.isPrefixOf? ("//export" : Text) line with
    | some after => !after.head?.any Text.isWord
    | none => false

/-- Tell what a trimmed line is. -/
def classify (line : Text) : LineKind :=
  match markerName? line with
  | some name => .marker name
  | none =>
      match List.isPrefixOf? ("//" : Text) line with
      | some text => if isDirective line then .directive else .comment (Text.trim text)
      | none =>
          match List.isPrefixOf? ("func" : Text) line with
          | some after =>
              if after.head?.any Text.isBlank then .function else .other
          | none => if line.isEmpty then .blank else .other

end FfiBindings.Source
