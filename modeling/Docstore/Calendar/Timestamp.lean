import Docstore.Text.Numeral

/-!
# Dates and timestamps

Calendar dates and timestamps of the Gregorian calendar, with their ISO texts.  A timestamp may
carry its offset from universal time; two timestamps with offsets are the same when they name the
same instant.
-/

namespace Docstore

structure Date where
  year : Nat
  month : Nat
  day : Nat
deriving DecidableEq, Repr

/-- A time of a day, with an offset from universal time in microseconds if one is known. -/
structure Timestamp where
  date : Date
  hour : Nat
  minute : Nat
  second : Nat
  microsecond : Nat
  offset : Option Int
deriving DecidableEq, Repr

namespace Date

/-- Whether a year has a 29th of February. -/
def isLeap (year : Nat) : Bool :=
  year % 4 == 0 && (year % 100 != 0 || year % 400 == 0)

/-- The days of a year that lie before a month. -/
def daysBefore (year month : Nat) : Nat :=
  let lengths := [31, if isLeap year then 29 else 28, 31, 30, 31, 30, 31, 31, 30, 31, 30, 31]
  (lengths.take (month - 1)).foldl (· + ·) 0

/-- The days that lie before a year, counted from the first of January of year one. -/
def daysBeforeYear (year : Nat) : Nat :=
  let y := year - 1
  365 * y + y / 4 - y / 100 + y / 400

/-- The number of a day, where the first of January of year one has number one. -/
def ordinal (d : Date) : Nat :=
  daysBeforeYear d.year + daysBefore d.year d.month + d.day

def isoText (d : Date) : String :=
  Text.padded 4 d.year ++ "-" ++ Text.padded 2 d.month ++ "-" ++ Text.padded 2 d.day

end Date

namespace Timestamp

def perSecond : Nat := 1000000

/-- An offset in ISO form: hours and minutes, and seconds and microseconds where they are not
zero. -/
def offsetText (offset : Int) : String :=
  let size := offset.natAbs
  let seconds := size / perSecond
  let fraction := size % perSecond
  (if offset < 0 then "-" else "+") ++ Text.padded 2 (seconds / 3600) ++ ":"
    ++ Text.padded 2 (seconds / 60 % 60)
    ++ (if seconds % 60 = 0 ∧ fraction = 0 then "" else ":" ++ Text.padded 2 (seconds % 60))
    ++ (if fraction = 0 then "" else "." ++ Text.padded 6 fraction)

/-- The time of day in ISO form, with microseconds where they are not zero. -/
def clockText (t : Timestamp) : String :=
  Text.padded 2 t.hour ++ ":" ++ Text.padded 2 t.minute ++ ":" ++ Text.padded 2 t.second
    ++ (if t.microsecond = 0 then "" else "." ++ Text.padded 6 t.microsecond)

/-- The timestamp with a separator between the date and the time of day. -/
def textWith (separator : String) (t : Timestamp) : String :=
  t.date.isoText ++ separator ++ t.clockText
    ++ match t.offset with
       | none => ""
       | some offset => offsetText offset

def isoText (t : Timestamp) : String :=
  textWith "T" t

/-- Microseconds since the calendar began, by the local clock. -/
def localCount (t : Timestamp) : Int :=
  ((((t.date.ordinal * 24 + t.hour) * 60 + t.minute) * 60 + t.second) * perSecond
    + t.microsecond : Nat)

/-- Whether two timestamps name the same time: the same instant if both have offsets, the same
reading of the clock if neither has. -/
def sameTime (s t : Timestamp) : Bool :=
  match s.offset, t.offset with
  | none, none => s.localCount == t.localCount
  | some x, some y => s.localCount - x == t.localCount - y
  | _, _ => false

/-- Whether one timestamp names an earlier time than another; without an answer if only one of them
has an offset. -/
def earlier? (s t : Timestamp) : Option Bool :=
  match s.offset, t.offset with
  | none, none => some (s.localCount < t.localCount)
  | some x, some y => some (s.localCount - x < t.localCount - y)
  | _, _ => none

example : (Timestamp.mk ⟨2024, 1, 1⟩ 9 0 0 500000 (some 20700000000)).isoText
    = "2024-01-01T09:00:00.500000+05:45" := by decide

end Timestamp

end Docstore
