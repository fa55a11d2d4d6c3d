import FfiBindings.Markup.Event
import FfiBindings.Number.Binary64
import FfiBindings.Number.Decimal
import FfiBindings.Text.Quoted

/-!
# What a scalar means

A plain scalar without a tag can mean nothing, a truth value, a number or a text, depending on how
it looks. The tags of the core types ask for one of these, a private tag leaves the choice open, and
all other scalars are texts.
-/

namespace FfiBindings.Markup

open Number (Binary64 dropSign hasSign spelledDecimal?)

/-- The value that a scalar stands for. -/
inductive Meaning where
  | null
  | bool (value : Bool)
  /-- A whole number, with a mark on those that need more than 64 bits. -/
  | integer (value : Int) (isWide : Bool)
  | float (value : Binary64)
  | infinity (isNegative : Bool)
  | notANumber
  | text (value : Text)
  deriving Repr, DecidableEq

/-- Whether a text is one of the spellings. -/
def isSpelled (spellings : List String) (text : Text) : Bool :=
  spellings.any fun spelling => spelling.toList == text

/-- Whether the text is a way to write nothing. -/
def spellsNull (text : Text) : Bool := isSpelled ["null", "Null", "NULL", "~"] text

/-- The truth value that the text spells. -/
def spelledBool? (text : Text) : Option Bool :=
  if isSpelled ["true", "True", "TRUE"] text then some true
  else if isSpelled ["false", "False", "FALSE"] text then some false
  else none

/-- Whether the text is a row of digits that starts with a superfluous zero. Such a text is no
    number. -/
def isZeroPadded (text : Text) : Bool :=
  let digits := dropSign text
  1 < digits.length && digits.head? == some '0' && digits.all Char.isDigit

/-- The letters that announce a radix. -/
def radixMarks : List (String × Nat) := [("0x", 16), ("0o", 8), ("0b", 2)]

/-- The number up to a limit that the text spells after a radix mark. -/
def spelledInRadix? (limit : Nat) (text : Text) : Option Nat :=
  radixMarks.findSome? fun (mark, radix) => do
    let digits ← mark.toList.isPrefixOf? text
    let value ← Text.natural? radix digits
    if value ≤ limit then some value else none

/-- The natural number up to a limit that the text spells, a plus sign in front allowed. -/
def spelledUnsigned? (limit : Nat) (text : Text) : Option Nat :=
  let unsigned := if text.head? == some '+' then text.drop 1 else text
  match spelledInRadix? limit unsigned with
  | some value => some value
  | none =>
      if hasSign unsigned || isZeroPadded text then none
      else (Text.natural? 10 unsigned).filter (· ≤ limit)

/-- The number of at most a given distance below zero that the text spells. -/
def spelledNegative? (limit : Nat) (text : Text) : Option Int :=
  if text.head? != some '-' then none
  else
    match spelledInRadix? limit (text.drop 1) with
    | some value => some (-value)
    | none =>
        if isZeroPadded text then none
        else ((Text.natural? 10 (text.drop 1)).filter (· ≤ limit)).map (-·)

/-- The whole number that the text spells, in 64 bits where it fits and else in 128. -/
def spelledInteger? (text : Text) : Option Meaning :=
  (spelledUnsigned? (Nat.pow 2 64 - 1) text).map (.integer · false)
    <|> (spelledNegative? (Nat.pow 2 63) text).map (.integer · false)
    <|> (spelledUnsigned? (Nat.pow 2 128 - 1) text).map (.integer · true)
    <|> (spelledNegative? (Nat.pow 2 127) text).map (.integer · true)

/-- The floating point number that the text spells. One too large for a double is none. -/
def spelledFloat? (text : Text) : Option Meaning :=
  let hasPlus := text.head? == some '+'
  let unsigned := if hasPlus then text.drop 1 else text
  if hasPlus && hasSign unsigned then none
  else if isSpelled [".inf", ".Inf", ".INF"] unsigned then some (.infinity false)
  else if isSpelled ["-.inf", "-.Inf", "-.INF"] text then some (.infinity true)
  else if isSpelled [".nan", ".NaN", ".NAN"] text then some .notANumber
  else do
    let isNegative := unsigned.head? == some '-'
    let (digits, power) ← spelledDecimal? (if isNegative then unsigned.drop 1 else unsigned)
    (Number.ofDecimal? isNegative digits power).map .float

/-- What a plain scalar without a tag means. -/
def plainMeaning (text : Text) : Meaning :=
  if text.isEmpty || spellsNull text then .null
  else
    match spelledBool? text with
    | some value => .bool value
    | none =>
        match spelledInteger? text with
        | some meaning => meaning
        | none =>
            if isZeroPadded text then .text text else (spelledFloat? text).getD (.text text)

/-- The core types that a tag can ask for. -/
inductive CoreType where
  | bool
  | int
  | float
  | null
  deriving Repr, DecidableEq

/-- The core type that a tag asks for. -/
def CoreType.ofTag? (tag : Text) : Option CoreType :=
  if tag == ("tag:yaml.org,2002:bool" : Text) then some .bool
  else if tag == ("tag:yaml.org,2002:int" : Text) then some .int
  else if tag == ("tag:yaml.org,2002:float" : Text) then some .float
  else if tag == ("tag:yaml.org,2002:null" : Text) then some .null
  else none

/-- The value of a core type that the text spells. -/
def CoreType.meaning? (type : CoreType) (text : Text) : Option Meaning :=
  match type with
  | .bool => (spelledBool? text).map .bool
  | .int => spelledInteger? text
  | .float => spelledFloat? text
  | .null => if spellsNull text then some .null else none

/-- What a scalar means. The error is the core type that its tag asks for and its text lacks. -/
def scalarMeaning (tag : Option Text) (value : Text) (style : ScalarStyle) :
    Except CoreType Meaning :=
  match tag with
  | none => .ok (if style == .plain then plainMeaning value else .text value)
  | some tag =>
      match CoreType.ofTag? tag with
      | some type =>
          match type.meaning? value with
          | some meaning => .ok meaning
          | none => .error type
      | none =>
          .ok (if tag.head? == some '!' && style == .plain then plainMeaning value
            else .text value)

/-- The meaning as it is named in messages. -/
def Meaning.describe : Meaning → Text
  | .null => "unit value"
  | .bool value => "boolean \x60" ++ (if value then "true" else "false" : Text) ++ "\x60"
  | .integer value isWide =>
      let digits : Text := (if value < 0 then "-" else "" : Text) ++ Text.decimal value.natAbs
      let width : Text :=
        if !isWide then "" else if value < 0 then " as i128" else " as u128"
      "integer \x60" ++ digits ++ "\x60" ++ width
  | .float value => "floating point \x60" ++ value.text ++ "\x60"
  | .infinity isNegative =>
      "floating point \x60" ++ (if isNegative then "-inf" else "inf" : Text) ++ "\x60"
  | .notANumber => "floating point \x60NaN\x60"
  | .text value => "string " ++ Quoted.text value

/-- The core type as it is named in messages. -/
def CoreType.describe : CoreType → Text
  | .bool => "a boolean"
  | .int => "an integer"
  | .float => "a float"
  | .null => "null"

end FfiBindings.Markup
