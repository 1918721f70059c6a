/-! # Timestamps

A timestamp is a day, alone or with a time of that day. The time may say how far
it is ahead of universal time, and two that do are the same moment if they come
to the same universal time. A timestamp is real if the calendar has its day and
the day has its time; otherwise its first flaw tells why there is none like it.
-/

namespace VeiledPool

/-- Why there is no such day or time. -/
inductive TimestampFlaw where
  /-- A year that the calendar does not have. -/
  | year (given : Nat)
  | month
  /-- A day that its month does not have. -/
  | day
  | hour
  | minute
  | second
  /-- A zone a day or more away, in minutes. -/
  | zone (distance : Int)
  deriving DecidableEq, Repr

structure Date where
  year : Nat
  month : Nat
  day : Nat
  deriving DecidableEq, Repr

namespace Date

/-- A year with a 29th of February. -/
def isLeap (year : Nat) : Bool :=
  year % 4 = 0 && (year % 100 ≠ 0 || year % 400 = 0)

/-- Numbers of days in the months of a year. -/
def monthLengths (year : Nat) : List Nat :=
  [31, if isLeap year then 29 else 28, 31, 30, 31, 30, 31, 31, 30, 31, 30, 31]

/-- What is wrong with a day; the calendar goes from the year 1 to 9999. -/
def flaw? (date : Date) : Option TimestampFlaw :=
  if date.year < 1 ∨ 9999 < date.year then some (.year date.year)
  else if date.month < 1 ∨ 12 < date.month then some .month
  else if date.day < 1 ∨ (monthLengths date.year)[date.month - 1]?.all (· < date.day) then
    some .day
  else none

/-- Number of a day; the first day of the first year is day one. -/
def number (date : Date) : Nat :=
  let past := date.year - 1
  let months := (monthLengths date.year).take (date.month - 1)
  365 * past + past / 4 - past / 100 + past / 400 + months.foldl (· + ·) 0 + date.day

end Date

structure Clock where
  hour : Nat
  minute : Nat
  second : Nat
  microsecond : Nat
  /-- Minutes ahead of universal time, where they are known. -/
  zone : Option Int
  deriving DecidableEq, Repr

namespace Clock

/-- What is wrong with a time, apart from its zone. -/
def flaw? (clock : Clock) : Option TimestampFlaw :=
  if 24 ≤ clock.hour then some .hour
  else if 60 ≤ clock.minute then some .minute
  else if 60 ≤ clock.second then some .second
  else none

/-- What is wrong with a zone, which is less than a day away. -/
def zoneFlaw? (clock : Clock) : Option TimestampFlaw :=
  clock.zone.bind fun zone => if 24 * 60 ≤ zone.natAbs then some (.zone zone) else none

/-- Microseconds since the day began. -/
def sinceMidnight (clock : Clock) : Nat :=
  ((clock.hour * 60 + clock.minute) * 60 + clock.second) * 1000000 + clock.microsecond

end Clock

/-- A day, perhaps with a time. -/
structure Timestamp where
  date : Date
  clock : Option Clock
  deriving DecidableEq, Repr

namespace Timestamp

/-- The first thing that is wrong with a timestamp: zone, day and time are
    looked at in this order. -/
def flaw? (stamp : Timestamp) : Option TimestampFlaw :=
  stamp.clock.bind Clock.zoneFlaw? <|> stamp.date.flaw? <|> stamp.clock.bind Clock.flaw?

/-- Universal time in microseconds, if the zone is known. -/
def instant? (stamp : Timestamp) : Option Int := do
  let clock ← stamp.clock
  let zone ← clock.zone
  pure (((stamp.date.number * 24 * 60 : Nat) - zone) * 60 * 1000000 + clock.sinceMidnight)

/-- Whether two timestamps are the same moment. -/
def sameMoment (left right : Timestamp) : Bool :=
  match left.instant?, right.instant? with
  | some a, some b => a = b
  | _, _ => left = right

end Timestamp

end VeiledPool
