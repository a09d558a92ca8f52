/-
**Time stamps.**

A moment is a number of microseconds since the start of 1970. Its stamp is the date and the time of day,
with hyphens instead of colons so that it can stand in a file name (`stamp`).
-/

import PromptChain.Decimal.Format

namespace PromptChain.Time

structure Day where
  year : Nat
  month : Nat
  day : Nat
deriving DecidableEq

/-- The day after a number of days since the start of 1970. Years are taken to start in March, so that
a leap day is the last day of its year. -/
def Day.ofDays (days : Nat) : Day :=
  let shifted := days + 719468
  let era := shifted / 146097
  let dayOfEra := shifted % 146097
  let yearOfEra := (dayOfEra - dayOfEra / 1460 + dayOfEra / 36524 - dayOfEra / 146096) / 365
  let dayOfYear := dayOfEra - (365 * yearOfEra + yearOfEra / 4 - yearOfEra / 100)
  let shiftedMonth := (5 * dayOfYear + 2) / 153
  let month := if shiftedMonth < 10 then shiftedMonth + 3 else shiftedMonth - 9
  { year := yearOfEra + era * 400 + (if month ≤ 2 then 1 else 0)
    month
    day := dayOfYear - (153 * shiftedMonth + 2) / 5 + 1 }

def second : Nat := 1000000

/-- The stamp of a moment; the fraction of a second is written if there is one. -/
def stamp (moment : Nat) : String :=
  let seconds := moment / second
  let day := Day.ofDays (seconds / 86400)
  let ofDay := seconds % 86400
  let date := Decimal.padded 4 day.year ++ '-' :: Decimal.padded 2 day.month
    ++ '-' :: Decimal.padded 2 day.day
  let time := Decimal.padded 2 (ofDay / 3600) ++ '-' :: Decimal.padded 2 (ofDay / 60 % 60)
    ++ '-' :: Decimal.padded 2 (ofDay % 60)
  let fraction := moment % second
  String.ofList (date ++ 'T' :: time
    ++ if fraction = 0 then [] else '.' :: Decimal.padded 6 fraction)

/-- The clock that transcripts are dated by. -/
structure Clock where
  /-- What the clock shows, in microseconds. -/
  moment : Nat
  /-- When the next transcript counts as written, in nanoseconds. -/
  modified : Int

def Clock.looked (clock : Clock) : Clock := { clock with moment := clock.moment + second }

def Clock.written (clock : Clock) : Clock := { clock with modified := clock.modified + 1000000000 }

end PromptChain.Time
