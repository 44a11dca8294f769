/-!
# Dates and moments

A date is a day of the Gregorian calendar in the years 1 to 9999 (`Landscape.Date`); a moment is a time
of day on a date, down to the microsecond, and may say how far its clock is from universal time
(`Landscape.Moment`). Both are built by functions that check every part (`Landscape.Date.of`,
`Landscape.Moment.of`) and both have a plain text and a constructor text, the one for reading and the
other for use inside lists and messages.
-/

namespace Landscape

/-! ### The calendar -/

/-- Whether a year has a 29th of February. -/
def isLeapYear (year : Nat) : Bool :=
  year % 4 == 0 && (year % 100 != 0 || year % 400 == 0)

/-- How many days a month has. -/
def daysInMonth (year month : Nat) : Nat :=
  if month == 2 then (if isLeapYear year then 29 else 28)
  else if month == 4 || month == 6 || month == 9 || month == 11 then 30
  else 31

/-- A day of the calendar. -/
structure Date where
  year : Nat
  month : Nat
  day : Nat
  deriving DecidableEq, Repr

/-- A time of day on a date; `offset` is the lead of its clock on universal time, in minutes. -/
structure Moment where
  date : Date
  hour : Nat
  minute : Nat
  second : Nat
  microsecond : Nat
  offset : Option Int
  deriving DecidableEq, Repr

/-- The part of a date or moment that is out of its range. -/
inductive CalendarFault where
  | year (n : Nat)
  | month
  | day
  | hour
  | minute
  | second
  | offset (minutes : Int)
  deriving DecidableEq, Repr

/-- A date with every part in its range. -/
def Date.of (year month day : Nat) : Except CalendarFault Date :=
  if year < 1 || 9999 < year then .error (.year year)
  else if month < 1 || 12 < month then .error .month
  else if day < 1 || daysInMonth year month < day then .error .day
  else .ok ⟨year, month, day⟩

/-- The minutes of a day. -/
def minutesPerDay : Nat := 1440

/-- A moment with every part in its range. The offset is looked at first. -/
def Moment.of (year month day hour minute second microsecond : Nat) (offset : Option Int) :
    Except CalendarFault Moment := do
  if let some m := offset then
    if minutesPerDay ≤ m.natAbs then throw (.offset m)
  let date ← Date.of year month day
  if 23 < hour then throw .hour
  if 59 < minute then throw .minute
  if 59 < second then throw .second
  return ⟨date, hour, minute, second, microsecond, offset⟩

/-! ### Sameness -/

/-- How many days lie before the first of January of a year, from the year 1 on. -/
def daysBeforeYear (year : Nat) : Nat :=
  let y := year - 1
  y * 365 + y / 4 - y / 100 + y / 400

/-- The number of a date, counted from the first day of the year 1. -/
def Date.number (d : Date) : Nat :=
  (List.range' 1 (d.month - 1)).foldl (fun days month => days + daysInMonth d.year month) (daysBeforeYear d.year) + d.day

/-- A moment on the line of universal time, in minutes, for a clock with the given lead. -/
def Moment.universalMinute (m : Moment) (offset : Int) : Int :=
  (m.date.number * minutesPerDay + m.hour * 60 + m.minute : Nat) - offset

/-- Two moments are the same if both say their offset and mean one point of time, or neither does and
all parts agree. -/
def Moment.same (a b : Moment) : Bool :=
  match a.offset, b.offset with
  | some x, some y =>
    a.universalMinute x == b.universalMinute y && a.second == b.second &&
      a.microsecond == b.microsecond
  | none, none => a == b
  | _, _ => false

/-! ### Texts -/

/-- A natural with at least `width` digits. -/
def padded (width n : Nat) : String :=
  let ds := Nat.toDigits 10 n
  String.ofList (List.replicate (width - ds.length) '0' ++ ds)

/-- The text of a date: year, month and day. -/
def Date.text (d : Date) : String :=
  s!"{padded 4 d.year}-{padded 2 d.month}-{padded 2 d.day}"

/-- The text of an offset: its sign, hours and minutes. -/
def offsetText (minutes : Int) : String :=
  let n := minutes.natAbs
  let sign := if minutes < 0 then "-" else "+"
  s!"{sign}{padded 2 (n / 60)}:{padded 2 (n % 60)}"

/-- The text of a moment, with `between` after the date; microseconds and offset only if there are
any. -/
def Moment.textWith (between : String) (m : Moment) : String :=
  let fraction := if m.microsecond == 0 then "" else s!".{padded 6 m.microsecond}"
  s!"{m.date.text}{between}{padded 2 m.hour}:{padded 2 m.minute}:{padded 2 m.second}{fraction}" ++
    (m.offset.map offsetText).getD ""

/-- The text of a moment. -/
def Moment.text (m : Moment) : String :=
  m.textWith " "

/-- The constructor text of a date. -/
def Date.constructorText (d : Date) : String :=
  s!"datetime.date({d.year}, {d.month}, {d.day})"

/-- The constructor text of a span of minutes, in whole days and the seconds beyond them. -/
def spanText (minutes : Int) : String :=
  let days := minutes.fdiv minutesPerDay
  let seconds := minutes.fmod minutesPerDay * 60
  let parts := (if days == 0 then [] else [s!"days={days}"]) ++
    (if seconds == 0 then [] else [s!"seconds={seconds}"])
  let text := if parts.isEmpty then "0" else ", ".intercalate parts
  s!"datetime.timedelta({text})"

/-- The constructor text of a moment: seconds and microseconds only if there are any. -/
def Moment.constructorText (m : Moment) : String :=
  let clock := [m.hour, m.minute] ++
    (if m.microsecond != 0 then [m.second, m.microsecond]
      else if m.second != 0 then [m.second] else [])
  let numbers := [m.date.year, m.date.month, m.date.day] ++ clock
  let zone := match m.offset with
    | none => ""
    | some o =>
      if o == 0 then ", tzinfo=datetime.timezone.utc"
      else s!", tzinfo=datetime.timezone({spanText o})"
  let text := ", ".intercalate (numbers.map toString)
  s!"datetime.datetime({text}{zone})"

/-- What is wrong with a part that is out of its range. -/
def CalendarFault.message : CalendarFault → String
  | .year n => s!"year {n} is out of range"
  | .month => "month must be in 1..12"
  | .day => "day is out of range for month"
  | .hour => "hour must be in 0..23"
  | .minute => "minute must be in 0..59"
  | .second => "second must be in 0..59"
  | .offset m =>
    "offset must be a timedelta strictly between -timedelta(hours=24) and timedelta(hours=24), " ++
      s!"not {spanText m}."

end Landscape
