import Teller.Time.Span

/-!
# Instants

Instants of the proleptic Gregorian calendar in Universal Time, to the nanosecond. A leap second is
the second 59 with a fraction from one up to two. Years run from -262143 to 262142.
-/

namespace Teller.Time

/-- A day of the calendar. -/
structure Day where
  /-- The year; year 0 comes before year 1. -/
  year : Int
  /-- The month, from 1. -/
  month : Nat
  /-- The day of the month, from 1. -/
  day : Nat
deriving Repr, DecidableEq, Inhabited

namespace Day

def firstYear : Int := -262143

def lastYear : Int := 262142

def isLeap (year : Int) : Bool :=
  year % 4 = 0 && (year % 100 ≠ 0 || year % 400 = 0)

def monthLength (year : Int) (month : Nat) : Nat :=
  if month = 2 then (if isLeap year then 29 else 28)
  else if month = 4 ∨ month = 6 ∨ month = 9 ∨ month = 11 then 30
  else 31

/-- The day exists and its year belongs to the calendar. -/
def Valid (d : Day) : Prop :=
  firstYear ≤ d.year ∧ d.year ≤ lastYear ∧ 1 ≤ d.month ∧ d.month ≤ 12 ∧
    1 ≤ d.day ∧ d.day ≤ monthLength d.year d.month

instance (d : Day) : Decidable d.Valid := by
  unfold Valid
  infer_instance

/-- The day after, unless it is past the calendar. -/
def next? (d : Day) : Option Day :=
  let e : Day :=
    if d.day < monthLength d.year d.month then ⟨d.year, d.month, d.day + 1⟩
    else if d.month < 12 then ⟨d.year, d.month + 1, 1⟩
    else ⟨d.year + 1, 1, 1⟩
  if e.Valid then some e else none

/-- The day before, unless it is before the calendar. -/
def previous? (d : Day) : Option Day :=
  let e : Day :=
    if 1 < d.day then ⟨d.year, d.month, d.day - 1⟩
    else if 1 < d.month then ⟨d.year, d.month - 1, monthLength d.year (d.month - 1)⟩
    else ⟨d.year - 1, 12, 31⟩
  if e.Valid then some e else none

/-- Days since 1 January 1970. -/
def sinceEpoch (d : Day) : Int :=
  let y := if d.month ≤ 2 then d.year - 1 else d.year
  let era := y / 400
  let yearOfEra := y - era * 400
  let shifted : Int := if 2 < d.month then d.month - 3 else d.month + 9
  let dayOfYear := (153 * shifted + 2) / 5 + d.day - 1
  era * 146097 + yearOfEra * 365 + yearOfEra / 4 - yearOfEra / 100 + dayOfYear - 719468

/-- The day a number of days after 1 January 1970. -/
def ofEpoch (days : Int) : Day :=
  let z := days + 719468
  let era := z / 146097
  let dayOfEra := z - era * 146097
  let yearOfEra :=
    (dayOfEra - dayOfEra / 1460 + dayOfEra / 36524 - dayOfEra / 146096) / 365
  let dayOfYear := dayOfEra - (365 * yearOfEra + yearOfEra / 4 - yearOfEra / 100)
  let shifted := (5 * dayOfYear + 2) / 153
  let day := dayOfYear - (153 * shifted + 2) / 5 + 1
  let month := if shifted < 10 then shifted + 3 else shifted - 9
  let year := yearOfEra + era * 400
  ⟨if month ≤ 2 then year + 1 else year, month.toNat, day.toNat⟩

end Day

/-- An instant in Universal Time. -/
structure Instant where
  date : Day
  /-- Seconds since midnight. -/
  second : Nat
  /-- Nanoseconds since the second; from 10⁹ on, they belong to a leap second. -/
  nano : Nat
deriving Repr, DecidableEq, Inhabited

namespace Instant

/-- The instant exists: a leap second ends a minute. -/
def Valid (t : Instant) : Prop :=
  t.date.Valid ∧ t.second < 86400 ∧ t.nano < 2000000000 ∧
    (1000000000 ≤ t.nano → t.second % 60 = 59)

instance (t : Instant) : Decidable t.Valid := by
  unfold Valid
  infer_instance

def epoch : Instant := ⟨⟨1970, 1, 1⟩, 0, 0⟩

/-- Milliseconds since the start of 1970, leap seconds not counted. -/
def epochMillis (t : Instant) : Int :=
  (t.date.sinceEpoch * 86400 + t.second) * 1000 + t.nano / 1000000

/-- The instant some seconds and nanoseconds after the start of 1970. -/
def ofEpochSeconds (seconds : Int) (nano : Nat) : Instant :=
  ⟨Day.ofEpoch (seconds / 86400), (seconds % 86400).toNat, nano⟩

/-- The instant at which clocks that are ahead by `offset` seconds show this date and time. The
offset is shorter than a day. -/
def behind? (t : Instant) (offset : Int) : Option Instant :=
  let s : Int := t.second - offset
  if s < 0 then do
    let d ← t.date.previous?
    return ⟨d, (s + 86400).toNat, t.nano⟩
  else if 86400 ≤ s then do
    let d ← t.date.next?
    return ⟨d, (s - 86400).toNat, t.nano⟩
  else some ⟨t.date, s.toNat, t.nano⟩

end Instant

end Teller.Time
