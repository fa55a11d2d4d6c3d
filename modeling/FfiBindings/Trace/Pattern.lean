import FfiBindings.Text.Blank
import FfiBindings.Text.Digit
import FfiBindings.Text.Word

/-!
# Patterns for values

A filter may ask for a value by a regular expression. Nothing is ever matched against it, so all that
matters is whether it is one: its groups and sets are closed, every repetition has something to
repeat, and every escape is known. It must also be possible to match it in one pass over UTF-8, which
leaves out word boundaries of Unicode, looking around, and sets that reach into the middle of a
character. There is no closing brace in a filter, so an opening one is never closed.
-/

namespace FfiBindings.Trace.Pattern

/-- The modes that decide what a pattern means from here on. -/
structure Modes where
  /-- Whether classes go by Unicode, and not by bytes. -/
  isUnicode : Bool
  /-- Whether blanks and comments count for nothing. -/
  skipsBlanks : Bool
  deriving Repr, DecidableEq

/-- Go past blanks and comments, each of which runs to the end of its line. -/
def skipComments (isComment : Bool) : Text → Text
  | [] => []
  | c :: rest =>
      if isComment then skipComments (c != '\n') rest
      else if Text.isBlank c then skipComments false rest
      else if c == '#' then skipComments true rest
      else c :: rest

/-- What is ahead once all that counts for nothing has been passed. -/
def Modes.ahead (modes : Modes) (text : Text) : Text :=
  if modes.skipsBlanks then skipComments false text else text

/-- What an escape stands for. -/
inductive Escape where
  /-- One character, by its code. The flag tells that the code may stand for a byte. -/
  | char (code : Nat) (isByte : Bool)
  /-- Any character of a class. -/
  | anyOf
  /-- A place between two characters. -/
  | place
  deriving Repr, DecidableEq

/-- Whether a code is one character in the given modes. Among bytes, those beyond ASCII are only
    parts of characters. -/
def Modes.admits (modes : Modes) (code : Nat) : Bool := modes.isUnicode || code < 0x80

/-- Read hexadecimal digits onto a value, as many as are wanted. -/
def readHexadecimal (modes : Modes) : Nat → Nat → Text → Option (Nat × Text)
  | 0, value, text => some (value, text)
  | _ + 1, _, [] => none
  | more + 1, value, c :: rest => do
      let digit ← Text.hexValue? c
      readHexadecimal modes more (value * 16 + digit) (modes.ahead rest)

/-- Whether the character has a meaning of its own in patterns or is, for another reason, one that
    stands for itself after a backslash: all of ASCII but letters, digits and angle brackets. -/
def standsForItself (c : Char) : Bool :=
  c.toNat < 0x80 && !c.isAlphanum && c != '<' && c != '>'

/-- Whether the letter names a general category of characters. -/
def isCategory (c : Char) : Bool := ("clmnpsz" : String).toList.contains c.toLower

/-- The code of the control character that a letter stands for. -/
def controlCode? : Char → Option Nat
  | 'a' => some 0x07
  | 't' => some 0x09
  | 'n' => some 0x0A
  | 'v' => some 0x0B
  | 'f' => some 0x0C
  | 'r' => some 0x0D
  | _ => none

/-- Read what follows a backslash. -/
def readEscape (modes : Modes) : Text → Option (Escape × Text)
  | [] => none
  | c :: rest =>
      let hexadecimal (digits : Nat) : Option (Escape × Text) := do
        let (code, after) ← readHexadecimal modes digits 0 (modes.ahead rest)
        if Text.isCodePoint code then some (.char code (digits == 2), after) else none
      match c with
      | 'x' => hexadecimal 2
      | 'u' => hexadecimal 4
      | 'U' => hexadecimal 8
      | 'p' | 'P' =>
          match modes.ahead rest with
          | letter :: after =>
              if modes.isUnicode && isCategory letter then some (.anyOf, after) else none
          | [] => none
      | 'd' | 's' | 'w' => some (.anyOf, rest)
      | 'D' | 'S' | 'W' => if modes.isUnicode then some (.anyOf, rest) else none
      | 'A' | 'z' => some (.place, rest)
      | 'b' | 'B' | '<' | '>' => if modes.isUnicode then none else some (.place, rest)
      | c =>
          if standsForItself c then some (.char c.toNat false, rest)
          else (controlCode? c).map fun code => (.char code false, rest)

/-- The names of the classes that are written between colons. -/
def classNames : List String :=
  ["alnum", "alpha", "ascii", "blank", "cntrl", "digit", "graph", "lower", "print", "punct",
    "space", "upper", "word", "xdigit"]

/-- A named class, after the bracket that opens it: whether it is negated, and what follows it. -/
def readNamedClass? (text : Text) : Option (Bool × Text) := do
  let text ← List.isPrefixOf? (":" : Text) text
  let isNegated := text.head? == some '^'
  let text := if isNegated then text.drop 1 else text
  let after ← List.isPrefixOf? (":]" : Text) (text.dropWhile (· != ':'))
  if classNames.any (·.toList == text.takeWhile (· != ':')) then some (isNegated, after) else none

/-- A set that is being read. Among bytes it holds all that are beyond ASCII or none of them, so one
    flag says all about that. -/
structure OpenSet where
  isNegated : Bool
  /-- What becomes of the flag by the operator before the members at hand. -/
  combine : Bool → Bool
  /-- The flag of the members at hand. -/
  reachesBytes : Bool

/-- The flag of a set that is complete. -/
def OpenSet.result (set : OpenSet) : Bool := set.isNegated != set.combine set.reachesBytes

/-- Open a set after its bracket. Dashes in front, or else a closing bracket, are members. -/
def openSet (modes : Modes) (text : Text) : OpenSet × Text :=
  let text := modes.ahead text
  let isNegated := text.head? == some '^'
  let text := if isNegated then modes.ahead (text.drop 1) else text
  let opened : OpenSet := ⟨isNegated, id, false⟩
  let rec skipDashes : Nat → Text → Text
    | 0, text => text
    | fuel + 1, text =>
        if text.head? == some '-' then skipDashes fuel (modes.ahead (text.drop 1)) else text
  if text.head? == some ']' then (opened, text.drop 1) else (opened, skipDashes text.length text)

/-- Read a member of a set: the code of a character, or nothing for a class. -/
def readMember (modes : Modes) : Text → Option (Option Nat × Text)
  | [] => none
  | '\\' :: rest => do
      match ← readEscape modes rest with
      | (.char code _, after) => if modes.admits code then some (some code, after) else none
      | (.anyOf, after) => some (none, after)
      | (.place, _) => none
  | c :: rest => if modes.admits c.toNat then some (some c.toNat, rest) else none

/-- Read a member of a set, or two with a dash between them and all that lies between those. -/
def readRange (modes : Modes) (text : Text) : Option Text := do
  let (first, after) ← readMember modes text
  match modes.ahead after with
  | '-' :: rest =>
      let next := (modes.ahead rest).head?
      if next == some ']' || next == some '-' then return '-' :: rest
      let (last, after) ← readMember modes (modes.ahead rest)
      match first, last with
      | some low, some high => if low ≤ high then some after else none
      | _, _ => none
  | after => return after

/-- Read on in a set that is open, inside others, and give what follows the outermost. Fuel bounds
    the number of steps, each of which takes up a character. -/
def readSet (modes : Modes) : Nat → OpenSet → List OpenSet → Text → Option Text
  | 0, _, _, _ => none
  | fuel + 1, set, outer, text =>
      let operate (operator : Bool → Bool → Bool) (rest : Text) : Option Text :=
        let held := set.combine set.reachesBytes
        readSet modes fuel { set with combine := operator held, reachesBytes := false } outer rest
      match modes.ahead text with
      | [] => none
      | ']' :: rest =>
          if set.result && !modes.isUnicode then none
          else
            match outer with
            | [] => some rest
            | next :: outer =>
                let next := { next with reachesBytes := next.reachesBytes || set.result }
                readSet modes fuel next outer rest
      | '[' :: rest =>
          match readNamedClass? rest with
          | some (isNegated, after) =>
              let set := { set with reachesBytes := set.reachesBytes || isNegated }
              readSet modes fuel set outer after
          | none =>
              let (inner, after) := openSet modes rest
              readSet modes fuel inner (set :: outer) after
      | '&' :: '&' :: rest => operate (fun left right => left && right) rest
      | '-' :: '-' :: rest => operate (fun left right => left && !right) rest
      | '~' :: '~' :: rest => operate (fun left right => left != right) rest
      | text => do readSet modes fuel set outer (← readRange modes text)

/-- A pattern while it is read. -/
structure Reading where
  modes : Modes
  /-- The modes to go back to at the end of each open group, the innermost first. -/
  outer : List Modes
  /-- The names of groups so far. -/
  names : List Text
  /-- Whether there is something that a repetition can repeat. -/
  canRepeat : Bool
  deriving Repr, DecidableEq

/-- The letters of modes. Each can be named once. -/
def modeLetters : Text := "imsUuRx"

/-- Read letters of modes, those after a dash being switched off, up to what ends them. -/
def readModes (seen : List Char) (isOff isDangling : Bool) (modes : Modes) :
    Text → Option (Modes × Char × Text)
  | [] => none
  | c :: rest =>
      if c == ':' || c == ')' then
        if isDangling || (c == ')' && seen.isEmpty) then none else some (modes, c, rest)
      else if c == '-' then
        if isOff then none else readModes seen true true modes rest
      else if modeLetters.contains c && !seen.contains c then
        let modes :=
          { modes with
            isUnicode := if c == 'u' then !isOff else modes.isUnicode
            skipsBlanks := if c == 'x' then !isOff else modes.skipsBlanks }
        readModes (c :: seen) isOff false modes rest
      else none

/-- Whether the text can name a group. -/
def isGroupName (name : Text) : Bool :=
  let isLetter (c : Char) : Bool := c == '_' || Text.isAlphanumeric c
  match name with
  | [] => false
  | first :: rest =>
      isLetter first && !first.isDigit &&
        rest.all fun c => isLetter c || c == '.' || c == '[' || c == ']'

namespace Reading

/-- Open a group whose inside is read in the given modes. -/
def openGroup (reading : Reading) (modes : Modes) : Reading :=
  { reading with modes, outer := reading.modes :: reading.outer, canRepeat := false }

/-- Open a group with a name. -/
def openNamed (reading : Reading) (text : Text) : Option (Reading × Text) :=
  let name := text.takeWhile (· != '>')
  match text.dropWhile (· != '>') with
  | [] => none
  | _ :: rest =>
      if isGroupName name && !reading.names.contains name then
        some ({ reading.openGroup reading.modes with names := name :: reading.names }, rest)
      else none

/-- Read what follows an opening parenthesis: a group opens, or the modes of this one change. -/
def takeGroup (reading : Reading) (text : Text) : Option (Reading × Text) :=
  match reading.modes.ahead text with
  | '?' :: 'P' :: '<' :: rest => reading.openNamed rest
  | '?' :: '<' :: rest => reading.openNamed rest
  | '?' :: rest => do
      let (modes, ending, rest) ← readModes [] false false reading.modes rest
      if ending == ')' then return ({ reading with modes, canRepeat := false }, rest)
      return (reading.openGroup modes, rest)
  | text => some (reading.openGroup reading.modes, text)

end Reading

/-- Whether the text goes on as a pattern to its end. Fuel bounds the number of steps, each of which
    takes up a character. -/
def isComplete : Nat → Reading → Text → Bool
  | 0, _, _ => false
  | fuel + 1, reading, text =>
      let goOn (canRepeat : Bool) (rest : Text) : Bool :=
        isComplete fuel { reading with canRepeat } rest
      match reading.modes.ahead text with
      | [] => reading.outer.isEmpty
      | c :: rest =>
          match c with
          | '(' =>
              match reading.takeGroup rest with
              | some (reading, rest) => isComplete fuel reading rest
              | none => false
          | ')' =>
              match reading.outer with
              | modes :: outer => isComplete fuel { reading with modes, outer, canRepeat := true } rest
              | [] => false
          | '|' => goOn false rest
          | '[' =>
              let (set, after) := openSet reading.modes rest
              match readSet reading.modes (after.length + 1) set [] after with
              | some rest => goOn true rest
              | none => false
          | '?' | '*' | '+' =>
              reading.canRepeat && goOn true (if rest.head? == some '?' then rest.drop 1 else rest)
          | '\x7b' => false
          | '\\' =>
              match readEscape reading.modes rest with
              | some (.char code isByte, rest) =>
                  (!isByte || reading.modes.admits code) && goOn true rest
              | some (_, rest) => goOn true rest
              | none => false
          | '.' => reading.modes.isUnicode && goOn true rest
          | _ => goOn true rest

/-- Whether a text is a pattern. -/
def isPattern (text : Text) : Bool :=
  isComplete (text.length + 1) ⟨⟨true, false⟩, [], [], false⟩ text

end FfiBindings.Trace.Pattern
