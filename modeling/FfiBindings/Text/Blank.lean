import FfiBindings.Text.Basic

/-!
# White space

The one notion of white space used throughout: the characters with the Unicode property of that
name, line breaks and tabs included. Trimming and cutting into fields follow it.
-/

namespace FfiBindings.Text

/-- White space of every kind: tab to carriage return, the space, the next-line character, the
    no-break spaces, the typographic spaces and the two separators. -/
def isBlank (c : Char) : Bool :=
  let code := c.toNat
  (9 ≤ code && code ≤ 13) || code == 0x20 || code == 0x85 || code == 0xA0 || code == 0x1680 ||
    (0x2000 ≤ code && code ≤ 0x200A) || code == 0x2028 || code == 0x2029 || code == 0x202F ||
    code == 0x205F || code == 0x3000

/-- Drop the blanks in front. -/
def trimStart (text : Text) : Text := text.dropWhile isBlank

/-- Drop the blanks at the end. -/
def trimEnd (text : Text) : Text := (text.reverse.dropWhile isBlank).reverse

/-- Drop the blanks at both ends. -/
def trim (text : Text) : Text := trimEnd (trimStart text)

/-- The longest stretches without a blank, in order. -/
def fields (text : Text) : List Text :=
  (splitWhen isBlank text).filter (! ·.isEmpty)

end FfiBindings.Text
