import FfiBindings.Host.Basic

/-!
# Calendar dates

The clock readings of a moment, given as the seconds since the start of the year 1970 in universal
time. Years count from the first of March here, so that the day that some years lack is the last
of its year.
-/

namespace FfiBindings

/-- A day of the calendar. -/
structure Date where
  year : Nat
  month : Nat
  day : Nat
  deriving Repr, DecidableEq

namespace Date

/-- The number of days in the four centuries after which the calendar repeats itself. -/
def cycleDays : Nat := 146097

/-- The number of days from the first of March of the year 0 to the start of 1970. -/
def daysBefore1970 : Nat := 719468

/-- The day that is a number of days after the start of 1970. -/
def ofDays (days : Nat) : Date :=
  let cycle := (days + daysBefore1970) / cycleDays
  let inCycle := (days + daysBefore1970) % cycleDays
  let year := (inCycle - inCycle / 1460 + inCycle / 36524 - inCycle / 146096) / 365
  let inYear := inCycle - (365 * year + year / 4 - year / 100)
  let fromMarch := (5 * inYear + 2) / 153
  let month := if fromMarch < 10 then fromMarch + 3 else fromMarch - 9
  { year := cycle * 400 + year + if month ≤ 2 then 1 else 0
    month
    day := inYear - (153 * fromMarch + 2) / 5 + 1 }

end Date

/-- A number with zeros in front of it up to a width. -/
def paddedDecimal (width n : Nat) : Text :=
  let digits := Text.decimal n
  List.replicate (width - digits.length) '0' ++ digits

/-- The readings of a clock at a moment, given in seconds and microseconds. -/
def Clock.ofSeconds (seconds microseconds : Nat) (elapsed : Text) : Clock :=
  let date := Date.ofDays (seconds / 86400)
  let day := paddedDecimal 4 date.year ++ "-" ++ paddedDecimal 2 date.month ++ "-" ++
    paddedDecimal 2 date.day
  let time := paddedDecimal 2 (seconds / 3600 % 24) ++ ":" ++
    paddedDecimal 2 (seconds / 60 % 60) ++ ":" ++ paddedDecimal 2 (seconds % 60)
  { dateTime := day ++ " " ++ time
    instant := day ++ "T" ++ time ++ "." ++ paddedDecimal 6 microseconds ++ "Z"
    elapsed }

example : Date.ofDays 0 = ⟨1970, 1, 1⟩ := by decide
example : Date.ofDays 11016 = ⟨2000, 2, 29⟩ := by decide
example : Date.ofDays 11017 = ⟨2000, 3, 1⟩ := by decide
example : Date.ofDays 19753 = ⟨2024, 1, 31⟩ := by decide

end FfiBindings
