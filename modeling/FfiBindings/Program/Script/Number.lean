import FfiBindings.Text.Digit

/-!
# Numbers in shell scripts

Whole numbers with a sign in front, in the notations that scripts know: decimal, octal behind a zero
and hexadecimal behind a zero and an x. Numbers are those of 64 bits.
-/

namespace FfiBindings.Program.Script

/-- Whether the character is a blank in front of a number. -/
def isSpace (c : Char) : Bool := " \t\n\x0b\x0c\r".toList.contains c

/-- Whether the character is an octal digit. -/
def isOctal (c : Char) : Bool := '0' ≤ c && c ≤ '7'

/-- Whether the character is a hexadecimal digit. -/
def isHexadecimal (c : Char) : Bool := (Text.hexValue? c).isSome

/-- The number that a text starts with, and what follows it: nothing is taken if there is none. -/
def readNatural? (hasNotations : Bool) (text : Text) : Option (Nat × Text) :=
  let take (radix : Nat) (test : Char → Bool) (text : Text) : Option (Nat × Text) :=
    (Text.natural? radix (text.takeWhile test)).map fun value => (value, text.dropWhile test)
  match text with
  | '0' :: x :: rest =>
      if hasNotations && (x == 'x' || x == 'X') && rest.head?.any isHexadecimal then
        take 16 isHexadecimal rest
      else if hasNotations then take 8 isOctal text
      else take 10 Char.isDigit text
  | text => take 10 Char.isDigit text

/-- The number with its sign that a text starts with, blanks in front passed over. -/
def readInteger? (hasNotations : Bool) (text : Text) : Option (Int × Text) :=
  match text.dropWhile isSpace with
  | '-' :: rest => (readNatural? hasNotations rest).map fun (value, rest) => (-value, rest)
  | '+' :: rest => (readNatural? hasNotations rest).map fun (value, rest) => (value, rest)
  | text => (readNatural? hasNotations text).map fun (value, rest) => (value, rest)

/-- How many numbers there are. -/
def numberCount : Nat := Nat.pow 2 64

/-- The largest number. -/
def largest : Int := numberCount / 2 - 1

/-- The smallest number. -/
def smallest : Int := -(numberCount / 2)

/-- The number of 64 bits that a number wraps around to. -/
def wrap (n : Int) : Int := n.bmod numberCount

/-- The bits of a number. -/
def bitsOf (n : Int) : Nat := (n % numberCount).toNat

/-- The digits of a number. -/
def decimalOf (n : Int) : Text :=
  if n < 0 then '-' :: Text.decimal n.natAbs else Text.decimal n.natAbs

end FfiBindings.Program.Script
