import FfiBindings.Host.Basic
import FfiBindings.Number.Decimal
import FfiBindings.Trace.Pattern

/-!
# Directives of a filter

A directive says how much to show, and of what: of all parts of the program or of those whose name
starts with a target, and in brackets of spans with a name or of whatever has a field. It is read
from front to back, character by character. All its parts are optional, so what the characters so
far are shows only at the one that ends them.
-/

namespace FfiBindings.Trace

/-- How much is shown: nothing, or everything down to a severity. -/
abbrev Level := Option Severity

/-- The levels by number and name. -/
def levelNames : List (String × Level) :=
  [("off", none), ("error", some .error), ("warn", some .warn), ("info", some .info),
    ("debug", some .debug), ("trace", some .trace)]

/-- The level that a number from zero to five stands for, leading zeros and a plus sign allowed. -/
def numberedLevel? (text : Text) : Option Level := do
  let digits := if text.head? == some '+' then text.drop 1 else text
  if !digits.all Char.isDigit then none
  else (levelNames[← Text.natural? 10 digits]?).map (·.2)

/-- The level that a text names, in any case. -/
def level? (text : Text) : Option Level :=
  match numberedLevel? text with
  | some level => some level
  | none =>
      (levelNames.find? fun (name, _) => name.toList == text.map Char.toLower).map (·.2)

/-- The level after an equals sign. None there stands for all. -/
def statedLevel? (text : Text) : Option Level :=
  if text.isEmpty then some (some .trace) else level? text

/-- A field that has to be there, perhaps with a value. -/
structure FieldDemand where
  name : Text
  value : Option Text
  deriving Repr, DecidableEq

/-- Whether the text is a number in decimal notation or one of the names of what is none. -/
def isNumber (text : Text) : Bool :=
  let unsigned := Number.dropSign text
  (Number.spelledDecimal? unsigned).isSome ||
    ["inf", "infinity", "nan"].any (·.toList == unsigned.map Char.toLower)

/-- Read a demand: a name, and after an equals sign a value up to the next one. A value is a number
    or else a pattern. -/
def FieldDemand.parse? (text : Text) : Option FieldDemand :=
  match Text.split '=' text with
  | name :: value :: _ =>
      if isNumber value || Pattern.isPattern value then some ⟨name, some value⟩ else none
  | _ => some ⟨text, none⟩

/-- What a filter says about some events, or about all. -/
structure Directive where
  target : Option Text
  /-- The name of the spans that it is about. -/
  span : Option Text
  field : Option FieldDemand
  level : Level
  deriving Repr, DecidableEq

namespace Directive

/-- A directive about all events. -/
def all (level : Level) : Directive := ⟨none, none, none, level⟩

/-- What is being read, and where it started. -/
inductive Stage where
  | start
  /-- A level, or the beginning of what has a level later. -/
  | levelOrTarget
  | span (start : Nat)
  | field (start : Nat)
  /-- After the brace that closes a field. -/
  | afterField
  /-- After the bracket that closes it all. -/
  | afterBrackets
  | level (start : Nat)
  deriving Repr, DecidableEq

/-- What has been read, with everything shown as long as no level is stated. -/
structure Reading where
  directive : Directive
  stage : Stage
  deriving Repr, DecidableEq

/-- Whether a character can start a level or a target. -/
def startsTarget (c : Char) : Bool :=
  c == '-' || c == ':' || c == '_' || Text.isAlphanumeric c

/-- Take one more character, at an index of the text. -/
def Reading.take (text : Text) (reading : Reading) (c : Char) (index : Nat) : Option Reading :=
  let directive := reading.directive
  let since (start : Nat) : Text := (text.take index).drop start
  match reading.stage with
  | .start =>
      if c == '[' then some ⟨directive, .span (index + 1)⟩
      else if startsTarget c then some ⟨directive, .levelOrTarget⟩
      else none
  | .levelOrTarget =>
      let named : Directive := { directive with target := some (since 0) }
      if c == '=' then some ⟨named, .level (index + 1)⟩
      else if c == '[' then some ⟨named, .span (index + 1)⟩
      else some reading
  | .span start =>
      if c == ']' then some ⟨{ directive with span := some (since start) }, .afterBrackets⟩
      else if c == '\x7b' then
        let span := some (since start) |>.filter (! ·.isEmpty)
        some ⟨{ directive with span }, .field (index + 1)⟩
      else some reading
  | .field start =>
      if c == '\x7d' then do
        if (since start).isEmpty then none
        let field ← FieldDemand.parse? (since start)
        return ⟨{ directive with field := some field }, .afterField⟩
      else some reading
  | .afterField => if c == ']' then some ⟨directive, .afterBrackets⟩ else none
  | .afterBrackets => if c == '=' then some ⟨directive, .level (index + 1)⟩ else none
  | .level _ => some reading

/-- The directive that has been read at the end of the text. -/
def Reading.finish? (text : Text) (reading : Reading) : Option Directive :=
  let directive := reading.directive
  match reading.stage with
  | .levelOrTarget =>
      match level? text with
      | some level => some (all level)
      | none => some { directive with target := some text }
  | .level start => (statedLevel? (text.drop start)).map fun level => { directive with level }
  | .afterBrackets => some directive
  | .start | .span _ | .field _ | .afterField => none

/-- Read a directive. Blanks around it do not count when the characters are gone through, but they
    do when its parts are cut out by index. -/
def parse? (text : Text) : Option Directive := do
  let start : Reading := ⟨all (some .trace), .start⟩
  let read ← (Text.trim text).zipIdx.foldlM (fun reading (c, index) =>
    reading.take text c index) start
  read.finish? text

/-- How well a directive fits an event of a part of the program: by the length of its target, which
    that part starts with, and then by its field. A directive without a target fits all parts, but
    worst. Events have no span around them and no field but the message, of which no value can be
    asked. -/
def fit? (directive : Directive) (target : Text) : Option (Nat × Nat) := do
  let targetFit ←
    match directive.target with
    | none => some 0
    | some wanted => if wanted.isPrefixOf target then some (wanted.length + 1) else none
  match directive.span, directive.field with
  | none, none => return (targetFit, 0)
  | none, some ⟨name, none⟩ => if name == ("message" : Text) then some (targetFit, 1) else none
  | _, _ => none

end Directive

end FfiBindings.Trace
