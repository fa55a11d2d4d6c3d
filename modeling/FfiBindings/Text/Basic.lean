/-!
# Texts

A text is a list of characters, so that every function on it is a recursion on the list. The
general operations live here: cutting at separators, looking for a fragment, and writing a number
in decimal digits.
-/

namespace FfiBindings

/-- A text, character by character. -/
abbrev Text := List Char

/-- A byte string, such as the content of a file or an operating system path. -/
abbrev Bytes := List UInt8

instance : Coe String Text := ⟨String.toList⟩

namespace Text

/-- Cut a text at every character that satisfies the test. The separators are dropped and empty
    pieces are kept, so a text with `n` separators has `n + 1` pieces. -/
def splitWhen (isSeparator : Char → Bool) : Text → List Text
  | [] => [[]]
  | c :: rest =>
      if isSeparator c then [] :: splitWhen isSeparator rest
      else
        match splitWhen isSeparator rest with
        | [] => [[c]]
        | piece :: pieces => (c :: piece) :: pieces

/-- Cut a text at every occurrence of one character. -/
def split (separator : Char) (text : Text) : List Text :=
  splitWhen (· == separator) text

/-- Join texts with a separator between neighbours. -/
def join (separator : Text) : List Text → Text
  | [] => []
  | [piece] => piece
  | piece :: pieces => piece ++ separator ++ join separator pieces

/-- The lines of a text. A line feed ends a line, so nothing follows a final one. -/
def lines : Text → List Text
  | [] => []
  | c :: rest =>
      if c == '\n' then [] :: lines rest
      else
        match lines rest with
        | [] => [[c]]
        | line :: later => (c :: line) :: later

/-- Whether the fragment occurs anywhere in the text. -/
def hasFragment (fragment : Text) : Text → Bool
  | [] => fragment.isEmpty
  | c :: rest => fragment.isPrefixOf (c :: rest) || hasFragment fragment rest

/-- Whether a text comes no later than another, character by character. -/
def isAtMost : Text → Text → Bool
  | [], _ => true
  | _ :: _, [] => false
  | c :: rest, d :: others => c.toNat < d.toNat || (c == d && isAtMost rest others)

/-- The decimal digits of a number. -/
def decimal (n : Nat) : Text := Nat.toDigits 10 n

/-- Whether the character is a letter or digit of ASCII, a hyphen or an underscore. -/
def isLabelChar (c : Char) : Bool := c.isAlphanum || c == '_' || c == '-'

/-- Whether a code point lies in one of the inclusive ranges of a table. -/
def inRanges (table : List (Nat × Nat)) (code : Nat) : Bool :=
  table.any fun range => range.1 ≤ code && code ≤ range.2

end Text

end FfiBindings
