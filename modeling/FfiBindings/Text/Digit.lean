import FfiBindings.Text.Basic

/-!
# Digits

Numbers as they are spelled in digits, decimal or of another radix up to sixteen, and which numbers
are code points.
-/

namespace FfiBindings.Text

/-- The value of a hexadecimal digit. -/
def hexValue? (c : Char) : Option Nat :=
  if '0' ≤ c && c ≤ '9' then some (c.toNat - 0x30)
  else if 'a' ≤ c && c ≤ 'f' then some (c.toNat - 0x61 + 10)
  else if 'A' ≤ c && c ≤ 'F' then some (c.toNat - 0x41 + 10)
  else none

/-- The number that some hexadecimal digits spell. -/
def hexNumber? (digits : Text) : Option Nat :=
  digits.foldlM (fun value c => (hexValue? c).map (value * 16 + ·)) 0

/-- Whether a number is a code point that a character can have. -/
def isCodePoint (code : Nat) : Bool := code < 0xD800 || (0xDFFF < code && code ≤ 0x10FFFF)

/-- The number that digits of a radix spell. -/
def natural? (radix : Nat) (digits : Text) : Option Nat :=
  if digits.isEmpty then none
  else
    digits.foldlM (fun value c => do
      let digit ← hexValue? c
      if digit < radix then some (value * radix + digit) else none) 0

end FfiBindings.Text
