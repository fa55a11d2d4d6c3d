import FfiBindings.Program.Script.Number

/-!
# Formats of shell scripts

Backslash escapes, and formats that fill in arguments. A character stands for the byte of its
number. An escape that is not known stands for itself, backslash included.
-/

namespace FfiBindings.Program.Script

/-- The character that a letter after a backslash stands for. -/
def escapedChar? : Char → Option Char
  | '\\' => some '\\'
  | 'a' => some '\x07'
  | 'b' => some '\x08'
  | 'e' => some '\x1b'
  | 'f' => some '\x0c'
  | 'n' => some '\n'
  | 'r' => some '\r'
  | 't' => some '\t'
  | 'v' => some '\x0b'
  | _ => none

/-- The byte that octal digits stand for. -/
def octalChar (digits : Text) : Char :=
  Char.ofNat (digits.foldl (fun n d => n * 8 + (d.toNat - '0'.toNat)) 0 % 256)

/-- The first octal digits of a text, three at most. -/
def octalDigits (text : Text) : Text := (text.take 3).takeWhile isOctal

/-- The escape that follows a backslash, as the character that it stands for, and how many
    characters it takes up. A zero starts up to three digits more where `isZeroLed` holds. -/
def readEscape? (isZeroLed : Bool) (text : Text) : Option (Char × Nat) :=
  match text with
  | [] => none
  | c :: rest =>
      if isZeroLed && c == '0' then
        let digits := octalDigits rest
        some (octalChar digits, digits.length + 1)
      else if isOctal c then
        let digits := octalDigits (c :: rest)
        some (octalChar digits, digits.length)
      else (escapedChar? c).map (·, 1)

/-- A text with its escapes resolved, and whether it ends the output early, as `\c` does. -/
def resolveEscapes (text : Text) : Text × Bool :=
  match text with
  | [] => ([], false)
  | '\\' :: 'c' :: _ => ([], true)
  | '\\' :: rest =>
      match readEscape? true rest with
      | some (c, size) =>
          let (later, isEnd) := resolveEscapes (rest.drop size)
          (c :: later, isEnd)
      | none =>
          let (later, isEnd) := resolveEscapes rest
          ('\\' :: later, isEnd)
  | c :: rest =>
      let (later, isEnd) := resolveEscapes rest
      (c :: later, isEnd)
termination_by text.length
decreasing_by
  all_goals
    simp only [List.length_cons, List.length_drop]
    omega

/-- A measure of a hole: none, a number, or one that an argument gives. -/
inductive Measure where
  | unstated
  | fixed (size : Nat)
  | argument
  deriving Repr, DecidableEq

/-- A place in a format for an argument. -/
structure Hole where
  /-- The marks in front of the measures. -/
  flags : Text
  width : Measure
  precision : Measure
  kind : Char
  /-- How the format spells the hole. -/
  spelling : Text
  deriving Repr, DecidableEq

/-- A piece of a format. -/
inductive FormatPiece where
  | char (c : Char)
  | hole (hole : Hole)
  /-- A hole that the format ends in before it has said what it is for. -/
  | unfinished
  deriving Repr, DecidableEq

/-- The measure that a text starts with, and the rest of the text. -/
def readMeasure (text : Text) : Measure × Text :=
  match text with
  | '*' :: rest => (.argument, rest)
  | text =>
      match Text.natural? 10 (text.takeWhile Char.isDigit) with
      | some size => (.fixed size, text.dropWhile Char.isDigit)
      | none => (.unstated, text)

/-- The hole that the text behind a percent sign states, and how many characters it takes up. -/
def readHole (text : Text) : FormatPiece × Nat :=
  let isFlag (c : Char) : Bool := "#-+ 0".toList.contains c
  let (width, rest) := readMeasure (text.dropWhile isFlag)
  let (precision, rest) :=
    match rest with
    | '.' :: rest =>
        match readMeasure rest with
        | (.unstated, rest) => (.fixed 0, rest)
        | read => read
    | rest => (Measure.unstated, rest)
  match rest with
  | [] => (.unfinished, text.length)
  | kind :: rest =>
      let size := text.length - rest.length
      (.hole ⟨text.takeWhile isFlag, width, precision, kind, '%' :: text.take size⟩, size)

/-- The pieces of a format. -/
def formatPieces (text : Text) : List FormatPiece :=
  match text with
  | [] => []
  | '%' :: '%' :: rest => .char '%' :: formatPieces rest
  | '%' :: rest =>
      let (piece, size) := readHole rest
      piece :: formatPieces (rest.drop size)
  | '\\' :: rest =>
      match readEscape? false rest with
      | some (c, size) => .char c :: formatPieces (rest.drop size)
      | none => .char '\\' :: formatPieces rest
  | c :: rest => .char c :: formatPieces rest
termination_by text.length
decreasing_by all_goals (simp only [List.length_cons, List.length_drop]; omega)

/-- What has been formatted so far, and what is left to format with. -/
structure Formatted where
  /-- What is put out, the last character first. -/
  text : Text
  arguments : List Text
  /-- What is wrong with arguments, the first thing first. -/
  warnings : List Text
  /-- What ends the formatting early: nothing more to say, or something that is wrong. -/
  ending : Option (Option Text)

namespace Formatted

/-- Put out more. -/
def put (formatted : Formatted) (text : Text) : Formatted :=
  { formatted with text := text.reverse ++ formatted.text }

/-- Use up an argument, which is empty if none is left. -/
def take (formatted : Formatted) : Text × Formatted :=
  (formatted.arguments.headD [], { formatted with arguments := formatted.arguments.tail })

/-- Note what is wrong with an argument. -/
def warn (formatted : Formatted) (argument text : Text) : Formatted :=
  { formatted with warnings := formatted.warnings ++ [argument ++ ": " ++ text] }

/-- Use up an argument as a number. A quote makes the number that of the character behind it. -/
def takeNumber (formatted : Formatted) : Int × Formatted :=
  let (argument, formatted) := formatted.take
  match argument with
  | [] => (0, formatted)
  | c :: rest =>
      if c == '"' || c == '\'' then ((rest.headD '\x00').toNat, formatted)
      else
        match readInteger? true argument with
        | none => (0, formatted.warn argument "expected numeric value")
        | some (value, rest) =>
            if !rest.isEmpty then (value, formatted.warn argument "not completely converted")
            else if value > largest || value < smallest then
              (max smallest (min largest value),
                formatted.warn argument "Numerical result out of range")
            else (value, formatted)

/-- What a measure comes to. -/
def measure (formatted : Formatted) : Measure → Option Int × Formatted
  | .unstated => (none, formatted)
  | .fixed size => (some size, formatted)
  | .argument =>
      let (value, formatted) := formatted.takeNumber
      (some value, formatted)

end Formatted

/-- The digits of a number in a radix, in lower case. -/
def radixDigits (radix n : Nat) : Text := Nat.toDigits radix n

/-- A text that is filled up to a width, at its end if `isLeft` holds. -/
def pad (isLeft : Bool) (width : Nat) (text : Text) : Text :=
  let blanks := List.replicate (width - text.length) ' '
  if isLeft then text ++ blanks else blanks ++ text

/-- A number as a hole shows it: a mark in front, and digits that are filled up with zeros. -/
def numeral (flags : Text) (isLeft : Bool) (width : Nat) (precision : Option Nat)
    (mark digits : Text) : Text :=
  let digits := if precision == some 0 && digits == ['0'] then [] else digits
  let size :=
    match precision with
    | some precision => precision
    | none => if flags.contains '0' && !isLeft then width - mark.length else 0
  pad isLeft width (mark ++ List.replicate (size - digits.length) '0' ++ digits)

/-- Fill a hole. -/
def fill (hole : Hole) (formatted : Formatted) : Formatted :=
  let (width, formatted) := formatted.measure hole.width
  let (precision, formatted) := formatted.measure hole.precision
  let isLeft := hole.flags.contains '-' || width.any (· < 0)
  let width := (width.getD 0).natAbs
  let precision := (precision.filter (0 ≤ ·)).map Int.toNat
  let shorten (text : Text) : Text := precision.elim text text.take
  let signed (formatted : Formatted) : Formatted :=
    let (value, formatted) := formatted.takeNumber
    let mark : Text :=
      if value < 0 then "-"
      else if hole.flags.contains '+' then "+"
      else if hole.flags.contains ' ' then " "
      else []
    formatted.put (numeral hole.flags isLeft width precision mark (Text.decimal value.natAbs))
  let unsigned (radix : Nat) (mark : Text) (change : Char → Char) : Formatted :=
    let (value, formatted) := formatted.takeNumber
    let value := bitsOf value
    let isMarked := hole.flags.contains '#' && value != 0
    formatted.put (numeral hole.flags isLeft width precision (if isMarked then mark else [])
      ((radixDigits radix value).map change))
  match hole.kind with
  | 's' =>
      let (argument, formatted) := formatted.take
      formatted.put (pad isLeft width (shorten argument))
  | 'b' =>
      let (argument, formatted) := formatted.take
      let (text, isEnd) := resolveEscapes argument
      let formatted := formatted.put (pad isLeft width (shorten text))
      if isEnd then { formatted with ending := some none } else formatted
  | 'c' =>
      let (argument, formatted) := formatted.take
      formatted.put (pad isLeft width [argument.headD '\x00'])
  | 'd' => signed formatted
  | 'i' => signed formatted
  | 'u' => unsigned 10 [] id
  | 'o' => unsigned 8 "0" id
  | 'x' => unsigned 16 "0x" id
  | 'X' => unsigned 16 "0X" Char.toUpper
  | _ => { formatted with ending := some (some (hole.spelling ++ ": invalid directive")) }

/-- One pass over a format, up to where something ends it. -/
def formatOnce (pieces : List FormatPiece) (formatted : Formatted) : Formatted :=
  pieces.foldl (fun formatted piece =>
    if formatted.ending.isSome then formatted
    else
      match piece with
      | .char c => formatted.put [c]
      | .hole hole => fill hole formatted
      | .unfinished =>
          { formatted with ending := some (some "missing format character") }) formatted

/-- Use a format as often as arguments are left for it, and once at least. A use that takes up no
    argument is the last one, so the number of arguments bounds the uses. -/
def formatAll (pieces : List FormatPiece) : Nat → Formatted → Formatted
  | 0, formatted => formatted
  | uses + 1, formatted =>
      let after := formatOnce pieces formatted
      if after.ending.isSome || after.arguments.isEmpty ||
          after.arguments.length == formatted.arguments.length then after
      else formatAll pieces uses after

/-- What a format makes of arguments. -/
def format (text : Text) (arguments : List Text) : Formatted :=
  formatAll (formatPieces text) (arguments.length + 1) ⟨[], arguments, [], none⟩

end FfiBindings.Program.Script
