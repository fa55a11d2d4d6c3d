import FfiBindings.Text.Utf8
import FfiBindings.Text.VisibleTable

/-!
# Quoted display

How a text or a byte string is shown between double quotes in a message, so that every character
of it can be told apart on a terminal.
-/

namespace FfiBindings.Quoted

/-- A number in lowercase hexadecimal digits. -/
def hexadecimal (n : Nat) : Text := Nat.toDigits 16 n

/-- A character by its code point, as in `\u\x7bfeff\x7d`. -/
def codePoint (c : Char) : Text := "\\u\x7b" ++ hexadecimal c.toNat ++ "\x7d"

/-- One character inside double quotes. Marks that would join the character before them, blank
    letters and characters without a visible form are written by code point. -/
def escapeChar (c : Char) : Text :=
  if c == '\x00' then "\\0"
  else if c == '\t' then "\\t"
  else if c == '\r' then "\\r"
  else if c == '\n' then "\\n"
  else if c == '"' then "\\\""
  else if c == '\\' then "\\\\"
  else if Text.inRanges Text.extendingRanges c.toNat then codePoint c
  else if Text.inRanges Text.invisibleRanges c.toNat then codePoint c
  else [c]

/-- A text between double quotes. -/
def text (content : Text) : Text := "\"" ++ content.flatMap escapeChar ++ "\""

/-- A byte in two uppercase hexadecimal digits, as in `\xFF`. -/
def byteEscape (b : UInt8) : Text :=
  let digits := (Nat.toDigits 16 b.toNat).map Char.toUpper
  "\\x" ++ (if digits.length < 2 then '0' :: digits else digits)

/-- A byte string between double quotes: characters as in a text and broken pieces byte by byte. -/
def bytes (content : Bytes) : Text :=
  let piece : Utf8.Piece → Text
    | .char c => escapeChar c
    | .broken broken => broken.flatMap byteEscape
  "\"" ++ (Utf8.pieces content).flatMap piece ++ "\""

end FfiBindings.Quoted
