import FfiBindings.Text.Basic
import FfiBindings.Text.AlphanumericTable
import FfiBindings.Text.WordTable

/-!
# Word characters
-/

namespace FfiBindings.Text

/-- Whether the character can stand in a word: a letter, mark, digit, connector or join control of
    any script. ASCII is decided without the table, which agrees with it there. -/
def isWord (c : Char) : Bool :=
  if c.toNat < 0x80 then c.isAlphanum || c == '_' else inRanges wordRanges c.toNat

/-- Whether the character is a letter or a number of any script. ASCII is decided without the table,
    which agrees with it there. -/
def isAlphanumeric (c : Char) : Bool :=
  if c.toNat < 0x80 then c.isAlphanum else inRanges alphanumericRanges c.toNat

end FfiBindings.Text
