import EntityMapper.Calendar.Date

/-!
# Points in time

A timestamp is a day, a second of the day and a fraction in nanoseconds. A leap second is written as
the second before it with a fraction of a whole second or more.
-/

namespace EntityMapper.Calendar

/-- A date and a time of day, without a time zone. -/
structure Timestamp where
  /-- The day, counted from the first of January 1970. -/
  day : Int
  /-- Seconds since midnight. -/
  second : Nat
  /-- Nanoseconds; 10^9 or more inside a leap second. -/
  nano : Nat
deriving DecidableEq, Repr

namespace Timestamp

/-- Nanoseconds in a second. -/
def nanosPerSecond : Nat := 1000000000

/-- Seconds in a day. -/
def secondsPerDay : Nat := 86400

/-- The timestamp of a date and a time of day. -/
def ofClock (date : Date) (hour minute second nano : Nat) : Timestamp :=
  ⟨date.toDays, 3600 * hour + 60 * minute + second, nano⟩

/-- The day as a date. -/
def date (t : Timestamp) : Date := Date.ofDays t.day

/-- The hour of the day. -/
def hour (t : Timestamp) : Nat := t.second / 3600

/-- The minute of the hour. -/
def minute (t : Timestamp) : Nat := t.second / 60 % 60

/-- The second of the minute, at most 59. -/
def clockSecond (t : Timestamp) : Nat := t.second % 60

/-! ## Texts -/

/-- The fraction of the second: nothing if it is zero, else three, six or nine digits, as few as
hold it. -/
def fractionText (t : Timestamp) : String :=
  let nano := t.nano % nanosPerSecond
  if nano = 0 then ""
  else if nano % 1000000 = 0 then "." ++ Date.padded 3 (nano / 1000000)
  else if nano % 1000 = 0 then "." ++ Date.padded 6 (nano / 1000)
  else "." ++ Date.padded 9 nano

/-- Hours, minutes and seconds with their fraction; a leap second is the sixtieth. -/
def clockText (t : Timestamp) : String :=
  Date.padded 2 t.hour ++ ":" ++ Date.padded 2 t.minute ++ ":" ++
    Date.padded 2 (t.clockSecond + t.nano / nanosPerSecond) ++ t.fractionText

/-- Date and time with a blank between them. -/
def text (t : Timestamp) : String := t.date.text ++ " " ++ t.clockText

/-- Date and time with a `T` between them. -/
def isoText (t : Timestamp) : String := t.date.text ++ "T" ++ t.clockText

/-! ## Microseconds

The database counts microseconds from the first of January 2000. -/

/-- The number of the day from which microseconds are counted. -/
def databaseEpoch : Int := 10957

/-- Microseconds in a second. -/
def microsPerSecond : Nat := 1000000

/-- Microseconds in a day. -/
def microsPerDay : Int := 86400000000

/-- Microseconds since the year 2000, cut toward zero. -/
def toMicros (t : Timestamp) : Int :=
  let nanos : Int :=
    ((t.day - databaseEpoch) * secondsPerDay + t.second) * nanosPerSecond + t.nano
  nanos.tdiv 1000

/-- The first day that a timestamp can have. -/
def firstDay : Int := (Date.mk (-262143) 1 1).toDays

/-- The last day that a timestamp can have. -/
def lastDay : Int := (Date.mk 262142 12 31).toDays

/-- The timestamp so many microseconds after the year 2000 began, if its day is in range. -/
def ofMicros? (micros : Int) : Option Timestamp :=
  let day := databaseEpoch + micros / microsPerDay
  let rest := (micros % microsPerDay).toNat
  if firstDay ≤ day ∧ day ≤ lastDay then
    some ⟨day, rest / microsPerSecond, rest % microsPerSecond * 1000⟩
  else none

end Timestamp

end EntityMapper.Calendar
