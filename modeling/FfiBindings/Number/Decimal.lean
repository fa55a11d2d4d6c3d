import FfiBindings.Text.Digit

/-!
# Decimals

A decimal is spelled by digits with or without a point among them, and perhaps an exponent.
-/

namespace FfiBindings.Number

/-- The text without a sign in front. -/
def dropSign : Text → Text
  | [] => []
  | c :: rest => if c == '+' || c == '-' then rest else c :: rest

/-- Whether the text starts with a sign. -/
def hasSign (text : Text) : Bool := text.head?.any fun c => c == '+' || c == '-'

/-- The exponent that the text after a number spells, zero where there is none. -/
def spelledExponent? (text : Text) : Option Int :=
  match text with
  | [] => some 0
  | c :: rest =>
      if c == 'e' || c == 'E' then
        let digits := dropSign rest
        if digits.all Char.isDigit then
          (Text.natural? 10 digits).map fun value =>
            if rest.head? == some '-' then -(value : Int) else value
        else none
      else none

/-- The decimal that the text spells: its digits as one number and the power of ten of the last. -/
def spelledDecimal? (text : Text) : Option (Nat × Int) := do
  let whole := text.takeWhile Char.isDigit
  let afterWhole := text.dropWhile Char.isDigit
  let fraction :=
    if afterWhole.head? == some '.' then (afterWhole.drop 1).takeWhile Char.isDigit else []
  let afterFraction :=
    if afterWhole.head? == some '.' then (afterWhole.drop 1).dropWhile Char.isDigit
    else afterWhole
  let digits ← Text.natural? 10 (whole ++ fraction)
  let exponent ← spelledExponent? afterFraction
  return (digits, exponent - fraction.length)

end FfiBindings.Number
