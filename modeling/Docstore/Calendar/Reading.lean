import Docstore.Calendar.Timestamp

/-!
# Reading dates and timestamps

Reads ISO texts: dates by month or by week, with or without hyphens; times to the hour, minute,
second or a fraction of it, with or without colons; and offsets, where `Z` is universal time.

A text is read octet by octet, and a zero octet counts as its end.  Where a date ends is decided
first, from the shape of the text; any one character may stand between date and time.  A text in ISO
form may still name a time that does not exist, and the first such part is reported: the offset,
then the parts of the date, then those of the time of day.
-/

namespace Docstore.Calendar

open Docstore.Text (asciiDigit?)

/-- Why a text names no date or timestamp. -/
inductive Misreading where
  /-- The text has no ISO form. -/
  | form
  | year (number : Nat)
  | month
  | day
  | hour
  | minute
  | second
  /-- The offset, in microseconds, is a day or more. -/
  | offset (span : Int)
deriving DecidableEq, Repr

/-! ## Octets -/

/-- The octets of a text, each as a character. -/
def octets (s : String) : List Char :=
  s.toList.flatMap fun c => (String.utf8EncodeChar c).map fun o => Char.ofNat o.toNat

/-- What counts as the end of a text. -/
def ending : Char := '\x00'

/-- The octet at a place, or the end. -/
def octetAt (cs : List Char) (place : Nat) : Char :=
  cs[place]?.getD ending

def isDigit (c : Char) : Bool :=
  (asciiDigit? c).isSome

/-- Takes a number of exactly `count` digits off the front. -/
def number? : (count : Nat) → List Char → Option (Nat × List Char)
  | 0, cs => some (0, cs)
  | count + 1, c :: rest => do
    let d ← asciiDigit? c
    let (n, after) ← number? count rest
    return (d * Nat.pow 10 count + n, after)
  | _ + 1, [] => none

/-! ## Dates -/

/-- The day with a given number that lies in a given year or beside it. -/
def dayNear (year ordinal : Nat) : Date :=
  let holder :=
    if ordinal ≤ Date.daysBeforeYear year then year - 1
    else if Date.daysBeforeYear (year + 1) < ordinal then year + 1 else year
  let within := ordinal - Date.daysBeforeYear holder
  let month := ((List.range 12).filter fun m => Date.daysBefore holder (m + 1) < within).length
  ⟨holder, month, within - Date.daysBefore holder month⟩

/-- How the first of January of a year lies in its week, where Monday is zero. -/
def firstWeekday (year : Nat) : Nat :=
  (Date.daysBeforeYear year + 7) % 7

/-- Whether a year has a week of a given number: 52 weeks, and one more if the year starts on a
Thursday, or on a Wednesday and has a day more. -/
def hasWeek (year week : Nat) : Bool :=
  let long := firstWeekday year == 3 || (firstWeekday year == 2 && Date.isLeap year)
  (1 ≤ week && week ≤ 52) || (week == 53 && long)

/-- The day of a week of a year; week one is the first with its Thursday in the year.  There are no
months before year one. -/
def weekDay (year week day : Nat) : Date :=
  if year = 0 then ⟨1, 0, 0⟩
  else
    let first := Date.daysBeforeYear year + 1
    let weekday := firstWeekday year
    let monday := if weekday ≤ 3 then first - weekday else first + 7 - weekday
    dayNear year (monday + 7 * (week - 1) + day - 1)

/-- Drops a hyphen at the front, which has to be there if the text is `dashed`. -/
def dropDash? (dashed : Bool) (cs : List Char) : Option (List Char) :=
  if dashed then match cs with
    | '-' :: rest => some rest
    | _ => none
  else some cs

/-- Reads the date of which a text consists up to a place.  What stands between the date and that
place is passed over. -/
def date? (size : Nat) (cs : List Char) : Option Date := do
  let (year, rest) ← number? 4 cs
  let dashed := rest.head? == some '-'
  let rest ← dropDash? dashed rest
  match rest with
  | 'W' :: rest => do
    let (week, rest) ← number? 2 rest
    let day ← if (if dashed then 8 else 7) < size then do
        let (day, _) ← number? 1 (← dropDash? dashed rest)
        pure day
      else pure 1
    if hasWeek year week && 1 ≤ day && day ≤ 7 then some (weekDay year week day) else none
  | rest => do
    let (month, rest) ← number? 2 rest
    let (day, _) ← number? 2 (← dropDash? dashed rest)
    return ⟨year, month, day⟩

/-- A date that exists. -/
def existing (d : Date) : Except Misreading Unit :=
  if d.year < 1 ∨ 9999 < d.year then .error (.year d.year)
  else if d.month < 1 ∨ 12 < d.month then .error .month
  else if d.day < 1 ∨ Date.daysBefore d.year (d.month + 1) - Date.daysBefore d.year d.month < d.day
    then .error .day
  else .ok ()

def readDate (s : String) : Except Misreading Date :=
  let cs := octets s
  let found := if cs.length ∈ [7, 8, 10] then date? cs.length cs else none
  match found with
  | none => .error .form
  | some d => do
    existing d
    return d

/-! ## Times -/

/-- A time of day or an offset, part by part. -/
structure Clock where
  hour : Nat
  minute : Nat := 0
  second : Nat := 0
  microsecond : Nat := 0
deriving DecidableEq, Repr

/-- What follows a part of a clock. -/
inductive Follow where
  /-- The end, perhaps after one octet more. -/
  | ended (surplus : Bool)
  /-- The next part. -/
  | part (cs : List Char)
  /-- A fraction. -/
  | fraction (cs : List Char)

/-- What follows a part of a clock whose parts are joined by `colons`, or by nothing; behind the
clock stands the octet `next`. -/
def follow? (colons : Bool) (next : Char) : List Char → Option Follow
  | [] => some (.ended (next != ending))
  | [c] => some (.ended (c != ending))
  | c :: rest =>
    if colons && c == ':' then some (.part rest)
    else if c = '.' ∨ c = ',' then some (.fraction rest)
    else if colons then none
    else some (.part (c :: rest))

/-- The microseconds of a fraction, of which six digits count, and whether something stands behind
the digits. -/
def fraction? (next : Char) (cs : List Char) : Option (Nat × Bool) := do
  let size := min 6 cs.length
  let (n, rest) ← number? size cs
  return (n * Nat.pow 10 (6 - size), (rest.dropWhile isDigit).headD next != ending)

/-- Reads a clock, and tells whether something stands behind it. -/
def clock? (next : Char) (cs : List Char) : Option (Clock × Bool) := do
  let (hour, rest) ← number? 2 cs
  let colons := rest.head? == some ':'
  match ← follow? colons next rest with
  | .ended surplus => return (⟨hour, 0, 0, 0⟩, surplus)
  | .fraction cs =>
    let (micro, surplus) ← fraction? next cs
    return (⟨hour, 0, 0, micro⟩, surplus)
  | .part cs =>
    let (minute, rest) ← number? 2 cs
    match ← follow? colons next rest with
    | .ended surplus => return (⟨hour, minute, 0, 0⟩, surplus)
    | .fraction cs =>
      let (micro, surplus) ← fraction? next cs
      return (⟨hour, minute, 0, micro⟩, surplus)
    | .part cs =>
      let (second, rest) ← number? 2 cs
      match ← follow? colons next rest with
      | .ended surplus => return (⟨hour, minute, second, 0⟩, surplus)
      | .fraction cs | .part cs =>
        let (micro, surplus) ← fraction? next cs
        return (⟨hour, minute, second, micro⟩, surplus)

/-- The offset that a clock stands for, in microseconds; a fraction of a second alone is none. -/
def Clock.offset (negative : Bool) (z : Clock) : Int :=
  let seconds := (z.hour * 60 + z.minute) * 60 + z.second
  let size : Int := (seconds * Timestamp.perSecond + z.microsecond : Nat)
  if seconds = 0 then 0 else if negative then -size else size

/-- Whether an octet starts an offset. -/
def startsOffset (c : Char) : Bool :=
  c == '+' || c == '-' || c == 'Z'

/-- Reads a time of day and its offset, if it has one. -/
def time? (cs : List Char) : Option (Clock × Option Int) := do
  let zone := cs.dropWhile (!startsOffset ·)
  let (clock, surplus) ← clock? (zone.headD ending) (cs.takeWhile (!startsOffset ·))
  match zone with
  | [] => if surplus then none else some (clock, none)
  | 'Z' :: rest => if rest.headD ending = ending then some (clock, some 0) else none
  | sign :: rest => do
    let (z, surplus) ← clock? ending rest
    if surplus then none else some (clock, some (z.offset (sign == '-')))

/-! ## Timestamps -/

/-- Where the date of a timestamp ends.  A week without hyphens has its day if an odd number of
digits follows it; a week with hyphens has its day unless two digits could follow. -/
def dateEnd? (cs : List Char) : Option Nat :=
  let octet := octetAt cs
  if cs.length = 7 then some 7
  else if octet 4 = '-' then
    if octet 5 ≠ 'W' then some 10
    else if cs.length < 8 then none
    else if octet 8 ≠ '-' then some 8
    else if cs.length = 9 then none
    else if isDigit (octet 10) then some 8
    else some 10
  else if octet 4 = 'W' then
    let digits := ((cs.drop 7).takeWhile isDigit).length
    if digits < 2 then some (7 + digits)
    else if digits % 2 = 1 then some 7
    else some 8
  else some 8

/-- The octets behind the character at the front. -/
def dropCharacter : List Char → List Char
  | [] => []
  | c :: rest =>
    let kind := c.toNat / 16
    if kind < 8 then rest
    else if kind = 14 then rest.drop 2
    else if kind = 15 then rest.drop 3
    else rest.drop 1

/-- The date, the time of day and the offset of a text in ISO form. -/
def parts? (cs : List Char) : Option (Date × Clock × Option Int) := do
  let stop ← dateEnd? cs
  let d ← date? stop cs
  match cs.drop stop with
  | [] => return (d, ⟨0, 0, 0, 0⟩, none)
  | rest => return (d, ← time? (dropCharacter rest))

/-- An offset is shorter than a day. -/
def offsetInDay : Option Int → Except Misreading Unit
  | some span =>
    if 86400 * Timestamp.perSecond ≤ span.natAbs then .error (.offset span) else .ok ()
  | none => .ok ()

/-- A clock that shows a time of a day. -/
def clockInDay (z : Clock) : Except Misreading Unit :=
  if 23 < z.hour then .error .hour
  else if 59 < z.minute then .error .minute
  else if 59 < z.second then .error .second
  else .ok ()

/-- The timestamp that parts make up, if there is such a time. -/
def assemble (d : Date) (z : Clock) (offset : Option Int) : Except Misreading Timestamp := do
  offsetInDay offset
  existing d
  clockInDay z
  return ⟨d, z.hour, z.minute, z.second, z.microsecond, offset⟩

def readTimestamp (s : String) : Except Misreading Timestamp :=
  match parts? (octets s) with
  | none => .error .form
  | some (d, clock, offset) => assemble d clock offset

example : (readTimestamp "2024-01-01T09:00:00.5+05:45").toOption
    = some ⟨⟨2024, 1, 1⟩, 9, 0, 0, 500000, some 20700000000⟩ := by decide +kernel
example : (readTimestamp "2024-W01-1509Z").toOption
    = some ⟨⟨2024, 1, 1⟩, 15, 9, 0, 0, some 0⟩ := by decide +kernel
example : (readTimestamp "2024-01-01T24:00").toOption = none := by decide +kernel
example : (readDate "2024-W01-1").toOption = some ⟨2024, 1, 1⟩ := by decide +kernel

end Docstore.Calendar
