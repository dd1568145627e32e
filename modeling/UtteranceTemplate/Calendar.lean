import UtteranceTemplate.Text.Basic

/-!
Dates, and moments of a date with or without an offset from universal time.

A date or moment is built only from fields in range (`Date.ofFields`,
`Moment.ofFields`); the first field out of range is the fault.
-/

namespace UtteranceTemplate

/-- A day of the Gregorian calendar. -/
structure Date where
  year : Nat
  month : Nat
  day : Nat
  deriving DecidableEq, Repr

/-- A time of day to the microsecond. -/
structure Clock where
  hour : Nat
  minute : Nat
  second : Nat
  microsecond : Nat
  deriving DecidableEq, Repr

/-- A time on a day, local or with an offset from universal time in minutes. -/
structure Moment where
  date : Date
  clock : Clock
  offset : Option Int
  deriving DecidableEq, Repr

/-- The field that keeps a date or moment from existing. -/
inductive CalendarFault
  | year (number : Nat)
  | month
  | day
  | hour
  | minute
  | second
  /-- The offset, in minutes, is a whole day or more. -/
  | offset (minutes : Int)
  deriving DecidableEq, Repr

namespace Date

def isLeapYear (year : Nat) : Bool :=
  year % 4 == 0 && (year % 100 != 0 || year % 400 == 0)

def daysIn (year month : Nat) : Nat :=
  if month = 2 then if isLeapYear year then 29 else 28
  else if [4, 6, 9, 11].contains month then 30
  else 31

def ofFields (year month day : Nat) : Except CalendarFault Date :=
  if year < 1 || 9999 < year then .error (.year year)
  else if month < 1 || 12 < month then .error .month
  else if day < 1 || daysIn year month < day then .error .day
  else .ok ⟨year, month, day⟩

/-- The number of days from the beginning of the year 1 to the date, that day
included. -/
def dayNumber (date : Date) : Nat :=
  let years := date.year - 1
  let months :=
    (List.range (date.month - 1)).foldl
      (fun days k => days + daysIn date.year (k + 1)) 0
  365 * years + years / 4 - years / 100 + years / 400 + months + date.day

def fields (date : Date) : List Nat := [date.year, date.month, date.day]

def text (date : Date) : Text :=
  "datetime.date(".text ++
    joinWith ", ".text (date.fields.map Text.ofNat) ++ ")".text

end Date

namespace Moment

def ofFields (year month day hour minute second microsecond : Nat)
    (offset : Option Int) : Except CalendarFault Moment :=
  match offset.filter fun minutes => 1440 ≤ minutes.natAbs with
  | some minutes => .error (.offset minutes)
  | none =>
      match Date.ofFields year month day with
      | .error fault => .error fault
      | .ok date =>
          if 23 < hour then .error .hour
          else if 59 < minute then .error .minute
          else if 59 < second then .error .second
          else .ok ⟨date, ⟨hour, minute, second, microsecond⟩, offset⟩

/-- The microseconds since the beginning of the year 1, in universal time if the
offset is known. -/
def instant (moment : Moment) : Int :=
  let minutes : Int :=
    (moment.date.dayNumber * 24 + moment.clock.hour) * 60 + moment.clock.minute
  ((minutes - moment.offset.getD 0) * 60 + moment.clock.second) * 1000000 +
    moment.clock.microsecond

/-- Whether two moments are the same instant; a local one is never the same as one
with an offset. -/
def sameAs (left right : Moment) : Bool :=
  left.offset.isSome == right.offset.isSome && left.instant == right.instant

/-- The text of a length of time in minutes, in days and seconds of which only the
days may be negative. -/
def durationText (minutes : Int) : Text :=
  let days := minutes.fdiv 1440
  let seconds := minutes.fmod 1440 * 60
  let parts :=
    (if days = 0 then [] else ["days=".text ++ Text.ofInt days]) ++
      (if seconds = 0 then [] else ["seconds=".text ++ Text.ofInt seconds])
  let shown := if parts.isEmpty then [.char '0'] else joinWith ", ".text parts
  "datetime.timedelta(".text ++ shown ++ ")".text

def offsetText (minutes : Int) : Text :=
  if minutes = 0 then "tzinfo=datetime.timezone.utc".text
  else "tzinfo=datetime.timezone(".text ++ durationText minutes ++ ")".text

/-- The fields of the clock as messages show them: no microseconds if there are none,
and then no seconds either if there are none. -/
def clockFields (clock : Clock) : List Nat :=
  [clock.hour, clock.minute] ++
    if clock.microsecond != 0 then [clock.second, clock.microsecond]
    else if clock.second != 0 then [clock.second]
    else []

def text (moment : Moment) : Text :=
  let fields := (moment.date.fields ++ clockFields moment.clock).map Text.ofNat
  let offset := moment.offset.toList.map offsetText
  "datetime.datetime(".text ++ joinWith ", ".text (fields ++ offset) ++ ")".text

end Moment

def CalendarFault.message : CalendarFault → Text
  | .year number => "year ".text ++ Text.ofNat number ++ " is out of range".text
  | .month => "month must be in 1..12".text
  | .day => "day is out of range for month".text
  | .hour => "hour must be in 0..23".text
  | .minute => "minute must be in 0..59".text
  | .second => "second must be in 0..59".text
  | .offset minutes =>
      "offset must be a timedelta strictly between -timedelta(hours=24) and ".text ++
        "timedelta(hours=24), not ".text ++
          Moment.durationText minutes ++ [.char '.']

end UtteranceTemplate
