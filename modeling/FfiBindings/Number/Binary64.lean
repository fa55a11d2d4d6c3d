import FfiBindings.Text.Basic

/-!
# Double precision numbers as decimals

A finite double is a whole number of units in the last place. Reading rounds a decimal to the
nearest double, a tie going to the even one; writing finds the fewest digits that read back. All
arithmetic is exact, on natural numbers.
-/

namespace FfiBindings.Number

/-- A finite double: `mantissa * 2 ^ exponent` with its sign. The exponent is the least possible
    or the mantissa has all 53 bits. -/
structure Binary64 where
  isNegative : Bool
  mantissa : Nat
  exponent : Int
  deriving Repr, DecidableEq

/-- A fraction of natural numbers. -/
structure Ratio where
  top : Nat
  bottom : Nat
  deriving Repr

namespace Ratio

/-- The fraction times a power of a base. -/
def scale (ratio : Ratio) (base : Nat) (power : Int) : Ratio :=
  if 0 ≤ power then { ratio with top := ratio.top * Nat.pow base power.toNat }
  else { ratio with bottom := ratio.bottom * Nat.pow base (-power).toNat }

/-- The nearest whole number, a half going to the even one. -/
def round (ratio : Ratio) : Nat :=
  let whole := ratio.top / ratio.bottom
  let twice := 2 * (ratio.top % ratio.bottom)
  if twice > ratio.bottom || (twice == ratio.bottom && whole % 2 == 1) then whole + 1 else whole

/-- Compare two fractions. -/
def compare (a b : Ratio) : Ordering := Ord.compare (a.top * b.bottom) (b.top * a.bottom)

/-- How far two fractions lie apart. -/
def distance (a b : Ratio) : Ratio :=
  let left := a.top * b.bottom
  let right := b.top * a.bottom
  ⟨if left < right then right - left else left - right, a.bottom * b.bottom⟩

end Ratio

/-- The least exponent of a double. -/
def leastExponent : Int := -1074

/-- The largest exponent of a double. -/
def largestExponent : Int := 971

/-- The number of bits of a full mantissa. -/
def mantissaBits : Nat := 53

/-- The double nearest to a positive fraction, unless that lies beyond the largest. -/
def roundToBinary (isNegative : Bool) (ratio : Ratio) : Option Binary64 :=
  let guess : Int := (Nat.log2 ratio.top : Int) - Nat.log2 ratio.bottom - mantissaBits
  let isTooSmall (exponent : Int) : Bool :=
    let scaled := ratio.scale 2 (-exponent)
    scaled.bottom * Nat.pow 2 mantissaBits ≤ scaled.top
  let exponent := if isTooSmall guess then guess + 1 else guess
  let exponent := max leastExponent exponent
  let mantissa := (ratio.scale 2 (-exponent)).round
  let (mantissa, exponent) :=
    if mantissa == Nat.pow 2 mantissaBits then (Nat.pow 2 (mantissaBits - 1), exponent + 1)
    else (mantissa, exponent)
  if largestExponent < exponent then none else some ⟨isNegative, mantissa, exponent⟩

/-- The double nearest to `digits * 10 ^ power`, unless that lies beyond the largest. Numbers whose
    order of magnitude alone decides are not computed. -/
def ofDecimal? (isNegative : Bool) (digits : Nat) (power : Int) : Option Binary64 :=
  let order : Int := (Nat.toDigits 10 digits).length + power
  if digits == 0 || order < -400 then some ⟨isNegative, 0, leastExponent⟩
  else if 400 < order then none
  else roundToBinary isNegative (Ratio.scale ⟨digits, 1⟩ 10 power)

namespace Binary64

/-- The value without its sign. -/
def magnitude (number : Binary64) : Ratio :=
  Ratio.scale ⟨number.mantissa, 1⟩ 2 number.exponent

/-- Whether a fraction reads as this number: it lies between the middles to the neighbours, and may
    be a middle where the mantissa is even. -/
def isReadFrom (number : Binary64) (candidate : Ratio) : Bool :=
  let quarter (quarters : Nat) : Ratio := Ratio.scale ⟨quarters, 1⟩ 2 (number.exponent - 2)
  let isNarrow :=
    number.mantissa == Nat.pow 2 (mantissaBits - 1) && leastExponent < number.exponent
  let low := quarter (4 * number.mantissa - if isNarrow then 1 else 2)
  let high := quarter (4 * number.mantissa + 2)
  let isEven := number.mantissa % 2 == 0
  let aboveLow := candidate.compare low
  let belowHigh := candidate.compare high
  (aboveLow == .gt || (aboveLow == .eq && isEven)) &&
    (belowHigh == .lt || (belowHigh == .eq && isEven))

/-- Of the two multiples of a power of ten next to the number, the nearest that reads back. A number
    halfway between them goes to the upper one. -/
def nearestOnGrid? (number : Binary64) (power : Int) : Option Nat :=
  let value := number.magnitude
  let onGrid := value.scale 10 (-power)
  let below := onGrid.top / onGrid.bottom
  let candidate (count : Nat) : Ratio := Ratio.scale ⟨count, 1⟩ 10 power
  let fits := [below, below + 1].filter fun count => number.isReadFrom (candidate count)
  match fits with
  | [first, second] =>
      if ((candidate second).distance value).compare ((candidate first).distance value) == .gt
      then some first else some second
  | [only] => some only
  | _ => none

/-- The number of digits before the decimal point, negative for leading zeros after it. -/
def decimalOrder (number : Binary64) : Int :=
  let value := number.magnitude
  let whole := value.top / value.bottom
  if whole != 0 then (Nat.toDigits 10 whole).length
  else 1 - (Nat.toDigits 10 (value.bottom / value.top)).length

/-- The fewest decimal digits that read back as the number, and the power of ten of the last. -/
def shortest (number : Binary64) : Nat × Int :=
  if number.mantissa == 0 then (0, 0)
  else
    let order := number.decimalOrder
    let grids : List Int := (List.range 20).map fun (count : Nat) => order - (count : Int)
    match grids.findSome? fun power =>
        (number.nearestOnGrid? power).filter (· != 0) |>.map fun digits => (digits, power) with
    | some found => found
    | none => (0, 0)

/-- The number in positional notation, with the fewest digits that read back and at least one after
    the point. -/
def text (number : Binary64) : Text :=
  let (digits, power) := number.shortest
  let shown := Nat.toDigits 10 digits
  let places := (-power).toNat
  let body : Text :=
    if 0 ≤ power then (if digits == 0 then ['0'] else shown ++ List.replicate power.toNat '0') ++ ".0"
    else
      let padded := List.replicate (places + 1 - shown.length) '0' ++ shown
      padded.take (padded.length - places) ++ "." ++ padded.drop (padded.length - places)
  if number.isNegative then '-' :: body else body

end Binary64

end FfiBindings.Number
