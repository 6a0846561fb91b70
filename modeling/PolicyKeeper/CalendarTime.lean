/-!
# Calendar dates and times

A date is a year from 1 to 9999, a month and a day.  A date with a time may
also tell the offset of its zone; two such times are the same when they are
the same instant.
-/

namespace PolicyKeeper

inductive CalendarFault
  | year (given : Nat)
  | month
  | day
  | hour
  | minute
  | second
  /-- The offset, in seconds, is a day or more. -/
  | offset (seconds : Int)
  deriving DecidableEq

def spanText (seconds : Int) : String :=
  let days := seconds / 86400
  let rest := seconds % 86400
  let parts := (if days = 0 then [] else [s!"days={days}"]) ++
    (if rest = 0 then [] else [s!"seconds={rest}"])
  "datetime.timedelta(" ++ (if parts.isEmpty then "0" else ", ".intercalate parts) ++ ")"

def CalendarFault.message : CalendarFault → String
  | .year given => s!"year {given} is out of range"
  | .month => "month must be in 1..12"
  | .day => "day is out of range for month"
  | .hour => "hour must be in 0..23"
  | .minute => "minute must be in 0..59"
  | .second => "second must be in 0..59"
  | .offset seconds =>
      "offset must be a timedelta strictly between -timedelta(hours=24) and " ++
        s!"timedelta(hours=24), not {spanText seconds}."

structure CalendarDate where
  year : Nat
  month : Nat
  day : Nat
  deriving DecidableEq

structure CalendarTime where
  date : CalendarDate
  hour : Nat
  minute : Nat
  second : Nat
  microsecond : Nat
  /-- The offset of the zone in seconds, if it is known. -/
  offset : Option Int
  deriving DecidableEq

def isLeapYear (year : Nat) : Bool :=
  year % 4 = 0 && (year % 100 ≠ 0 || year % 400 = 0)

def daysInMonth (year month : Nat) : Nat :=
  if month = 2 then if isLeapYear year then 29 else 28
  else if month = 4 || month = 6 || month = 9 || month = 11 then 30
  else 31

namespace CalendarDate

def make (year month day : Nat) : Except CalendarFault CalendarDate :=
  if year < 1 ∨ 9999 < year then .error (.year year)
  else if month < 1 ∨ 12 < month then .error .month
  else if day < 1 ∨ daysInMonth year month < day then .error .day
  else .ok { year, month, day }

/-- The days before the date, counted from the start of year 1. -/
def dayNumber (d : CalendarDate) : Nat :=
  let before := d.year - 1
  let inMonths :=
    (List.range (d.month - 1)).foldl (fun days m => days + daysInMonth d.year (m + 1)) 0
  before * 365 + before / 4 - before / 100 + before / 400 + inMonths + (d.day - 1)

def padded (width number : Nat) : String :=
  let digits := Nat.toDigits 10 number
  String.ofList (List.replicate (width - digits.length) '0' ++ digits)

def text (d : CalendarDate) : String :=
  s!"{padded 4 d.year}-{padded 2 d.month}-{padded 2 d.day}"

def innerText (d : CalendarDate) : String := s!"datetime.date({d.year}, {d.month}, {d.day})"

end CalendarDate

namespace CalendarTime

def make (date : Except CalendarFault CalendarDate) (hour minute second microsecond : Nat)
    (offset : Option Int) : Except CalendarFault CalendarTime := do
  let outside := offset.filter fun seconds => seconds ≤ -86400 ∨ 86400 ≤ seconds
  if let some seconds := outside then .error (.offset seconds)
  else
    let date ← date
    if 23 < hour then .error .hour
    else if 59 < minute then .error .minute
    else if 59 < second then .error .second
    else .ok { date, hour, minute, second, microsecond, offset }

/-- Microseconds since the start of year 1, of the clock shown. -/
def shown (t : CalendarTime) : Int :=
  (((t.date.dayNumber * 24 + t.hour) * 60 + t.minute) * 60 + t.second : Nat) * 1000000 +
    t.microsecond

def sameAs (t u : CalendarTime) : Bool :=
  match t.offset, u.offset with
  | none, none => t.shown = u.shown
  | some a, some b => t.shown - a * 1000000 = u.shown - b * 1000000
  | _, _ => false

def offsetText (seconds : Int) : String :=
  let minutes := seconds.natAbs / 60
  (if seconds < 0 then "-" else "+") ++ CalendarDate.padded 2 (minutes / 60) ++ ":" ++
    CalendarDate.padded 2 (minutes % 60)

def text (t : CalendarTime) : String :=
  let pad := CalendarDate.padded
  t.date.text ++ " " ++ pad 2 t.hour ++ ":" ++ pad 2 t.minute ++ ":" ++ pad 2 t.second ++
    (if t.microsecond = 0 then "" else "." ++ pad 6 t.microsecond) ++
    (match t.offset with
      | some seconds => offsetText seconds
      | none => "")

def zoneText (seconds : Int) : String :=
  if seconds = 0 then "datetime.timezone.utc"
  else "datetime.timezone(" ++ spanText seconds ++ ")"

def innerText (t : CalendarTime) : String :=
  let numbers := [t.date.year, t.date.month, t.date.day, t.hour, t.minute] ++
    (if t.microsecond ≠ 0 then [t.second, t.microsecond]
      else if t.second ≠ 0 then [t.second] else [])
  let zone := match t.offset with
    | some seconds => [s!"tzinfo={zoneText seconds}"]
    | none => []
  "datetime.datetime(" ++ ", ".intercalate (numbers.map toString ++ zone) ++ ")"

end CalendarTime

end PolicyKeeper
