import FfiBindings.Markup.Meaning

/-!
# Writing scalars

A text is written in the plainest style that reads back as that text: plain where nothing in it
could be taken for something else, in single quotes where only its look is misleading, in double
quotes where characters have to be escaped, and as a literal block where it has several lines.
-/

namespace FfiBindings.Markup

/-- Whether a character is written as it is. -/
def isPrintable (c : Char) : Bool :=
  let code := c.toNat
  code == 0x0A || (0x20 ≤ code && code ≤ 0x7E) || (0xA0 ≤ code && code ≤ 0xD7FF) ||
    (0xE000 ≤ code && code ≤ 0xFFFD && code != 0xFEFF) || 0x10000 ≤ code

/-- Whether a character can stand next to an indicator without joining it: white space, a line
    break, a null, or the end of the text. -/
def isSeparator (c : Option Char) : Bool := endsWord c || c == some '\x00'

/-- Whether a character at the start of a text makes it look like something other than text. -/
def misleadsAtStart (c : Char) (next : Option Char) : Bool :=
  ("#,[]\x7b\x7d&*!|>'\"%@\x60" : String).toList.contains c ||
    ((c == '?' || c == ':' || c == '-') && isSeparator next)

/-- Whether a character later in a text makes it look like something other than text. -/
def misleadsInside (previous : Char) (c : Char) (next : Option Char) : Bool :=
  (c == ':' && isSeparator next) || (c == '#' && isSeparator (some previous))

/-- Whether any character after the first misleads, given the one before the text. -/
def anyMisleads (previous : Char) : Text → Bool
  | [] => false
  | c :: rest => misleadsInside previous c rest.head? || anyMisleads c rest

/-- Whether a plain scalar with this text would be read as something else. -/
def isMisleading (text : Text) : Bool :=
  match text with
  | [] => false
  | c :: rest =>
      ("---" : String).toList.isPrefixOf text || ("..." : String).toList.isPrefixOf text ||
        misleadsAtStart c rest.head? || anyMisleads c rest

/-- Whether two neighbours of the given kinds occur in the text, in this order. -/
def hasNeighbours (first second : Char → Bool) : Text → Bool
  | a :: b :: rest => (first a && second b) || hasNeighbours first second (b :: rest)
  | _ => false

/-- Whether a space stands before a line break. -/
def hasSpaceBeforeBreak (text : Text) : Bool := hasNeighbours (· == ' ') isBreak text

/-- Whether a space stands after a line break. -/
def hasSpaceAfterBreak (text : Text) : Bool := hasNeighbours isBreak (· == ' ') text

/-- Whether a character is a space or ends a line, and so is lost at the ends of a plain scalar. -/
def isLoose (c : Char) : Bool := c == ' ' || isBreak c

/-- Whether the text reads back from a plain scalar as it is. -/
def allowsPlain (text : Text) : Bool :=
  text.all (fun c => isPrintable c && !isBreak c) && !isMisleading text &&
    !text.head?.any isLoose && !text.getLast?.any isLoose

/-- Whether the text reads back from single quotes. -/
def allowsSingle (text : Text) : Bool :=
  text.all isPrintable && !hasSpaceAfterBreak text && !hasSpaceBeforeBreak text

/-- Whether the text reads back from a literal block. -/
def allowsLiteral (text : Text) : Bool :=
  text.all isPrintable && !hasSpaceBeforeBreak text && text.getLast? != some ' '

/-- Whether a plain scalar with this text would mean the text. -/
def meansText (text : Text) : Bool :=
  match plainMeaning text with
  | .text _ => !isZeroPadded text
  | _ => false

/-- The style for a text. -/
def chooseStyle (text : Text) : ScalarStyle :=
  if text.contains '\n' then if allowsLiteral text then .literal else .doubleQuoted
  else if meansText text && allowsPlain text then .plain
  else if allowsSingle text then .singleQuoted
  else .doubleQuoted

/-- A row of spaces. -/
def spaces (count : Nat) : Text := List.replicate count ' '

/-- The lines of a text at an indentation. It is put before the first character after a line break,
    so that blank lines stay empty. -/
def indentLines (indent : Nat) (afterBreak : Bool) : Text → Text
  | [] => []
  | c :: rest =>
      if isBreak c then c :: indentLines indent true rest
      else (if afterBreak then spaces indent else []) ++ c :: indentLines indent false rest

/-- A text between single quotes. A quote is written twice. -/
def printSingle (indent : Nat) (text : Text) : Text :=
  let doubled := text.flatMap fun c => if c == '\'' then ['\'', '\''] else [c]
  let closing : Text := if text.getLast?.any isBreak then spaces indent else []
  '\'' :: indentLines indent false doubled ++ closing ++ ['\'']

/-- A number in uppercase hexadecimal digits, at least as many as stated. -/
def paddedHex (width : Nat) (value : Nat) : Text :=
  let digits := (Nat.toDigits 16 value).map Char.toUpper
  List.replicate (width - digits.length) '0' ++ digits

/-- The letter that stands for a character after a backslash. -/
def escapeLetter? (c : Char) : Option Char :=
  match c.toNat with
  | 0x00 => some '0'
  | 0x07 => some 'a'
  | 0x08 => some 'b'
  | 0x09 => some 't'
  | 0x0A => some 'n'
  | 0x0B => some 'v'
  | 0x0C => some 'f'
  | 0x0D => some 'r'
  | 0x1B => some 'e'
  | 0x22 => some '"'
  | 0x5C => some '\\'
  | 0x85 => some 'N'
  | 0x2028 => some 'L'
  | 0x2029 => some 'P'
  | _ => none

/-- One character between double quotes. -/
def printDoubleChar (c : Char) : Text :=
  if isPrintable c && !isBreak c && c != '"' && c != '\\' then [c]
  else
    match escapeLetter? c with
    | some letter => ['\\', letter]
    | none =>
        let code := c.toNat
        if code ≤ 0xFF then '\\' :: 'x' :: paddedHex 2 code
        else if code ≤ 0xFFFF then '\\' :: 'u' :: paddedHex 4 code
        else '\\' :: 'U' :: paddedHex 8 code

/-- A text between double quotes. -/
def printDouble (text : Text) : Text := '"' :: text.flatMap printDoubleChar ++ ['"']

/-- The number of columns by which a nested collection or block is indented. -/
def indentStep : Nat := 2

/-- The indicators of a literal block: the indentation where the text itself starts with white
    space, and what becomes of the line breaks at the end. -/
def literalHeader (text : Text) : Text :=
  let indentation : Text := if text.head?.any isLoose then Text.decimal indentStep else []
  let endsInBreak := text.getLast?.any isBreak
  let endsInBlankLine := endsInBreak && text.dropLast.getLast?.all isBreak
  let chomping : Text := if !endsInBreak then "-" else if endsInBlankLine then "+" else []
  '|' :: indentation ++ chomping

/-- A text as a literal block. -/
def printLiteral (indent : Nat) (text : Text) : Text :=
  literalHeader text ++ '\n' :: indentLines indent true text

/-- A text as a scalar whose further lines stand at an indentation, with the end of its last
    line. -/
def printScalar (indent : Nat) (text : Text) : Text :=
  match chooseStyle text with
  | .plain => text ++ ['\n']
  | .singleQuoted => printSingle indent text ++ ['\n']
  | .literal =>
      printLiteral indent text ++ if text.getLast?.any isBreak then [] else ['\n']
  | _ => printDouble text ++ ['\n']

/-- A field of a mapping at a level of nesting, with a text as its value. -/
def printField (level : Nat) (name value : Text) : Text :=
  spaces (level * indentStep) ++ name ++ ": " ++ printScalar ((level + 1) * indentStep) value

end FfiBindings.Markup
