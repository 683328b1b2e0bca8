import Chatline.Failure

namespace Chatline

structure Date where
  year  : Nat
  month : Nat
  day   : Nat
  deriving DecidableEq, Repr

structure Moment where
  date        : Date
  hour        : Nat
  minute      : Nat
  second      : Nat
  microsecond : Nat
  offset      : Option Int
  deriving DecidableEq, Repr

namespace Date

def isLeap (year : Nat) : Bool :=
  year % 4 = 0 && (year % 100 ≠ 0 || year % 400 = 0)

def daysIn (year month : Nat) : Nat :=
  if month = 2 then if isLeap year then 29 else 28
  else if month ∈ [4, 6, 9, 11] then 30
  else 31

def of (year month day : Nat) : Except Failure Date :=
  if year = 0 then .error (.outOfRange s!"year {year} is out of range")
  else if month = 0 || month > 12 then .error (.outOfRange "month must be in 1..12")
  else if day = 0 || day > daysIn year month then .error (.outOfRange "day is out of range for month")
  else .ok { year, month, day }

def dayNumber (d : Date) : Nat :=
  let daysBefore := (List.range (d.month - 1)).map fun m => daysIn d.year (m + 1)
  365 * d.year + (d.year + 3) / 4 - (d.year + 99) / 100 + (d.year + 399) / 400 + daysBefore.foldl (· + ·) 0 + d.day

end Date

namespace Calendar

def padded (width n : Nat) : String :=
  let digits := toString n
  "".pushn '0' (width - digits.length) ++ digits

end Calendar

namespace Date
open Calendar

def isoText (d : Date) : String :=
  s!"{padded 4 d.year}-{padded 2 d.month}-{padded 2 d.day}"

def innerText (d : Date) : String :=
  s!"datetime.date({d.year}, {d.month}, {d.day})"

end Date

namespace Moment
open Calendar

def of (date : Date) (hour minute second microsecond : Nat) (offset : Option Int) :
    Except Failure Moment :=
  if hour > 23 then .error (.outOfRange "hour must be in 0..23")
  else if minute > 59 then .error (.outOfRange "minute must be in 0..59")
  else if second > 59 then .error (.outOfRange "second must be in 0..59")
  else .ok { date, hour, minute, second, microsecond, offset }

def clockSeconds (m : Moment) : Nat :=
  86400 * m.date.dayNumber + 3600 * m.hour + 60 * m.minute + m.second

-- Whether two moments are the same. If both offsets are known, universal time decides.
def isSame (m n : Moment) : Bool :=
  m.microsecond == n.microsecond &&
    match m.offset, n.offset with
    | some a, some b => m.clockSeconds - a == n.clockSeconds - b
    | none, none     => m.clockSeconds == n.clockSeconds
    | _, _           => false

def checkOffset (seconds : Int) : Except Failure Int :=
  if seconds.natAbs < 86400 then .ok seconds
  else
    let days := seconds / 86400
    let rest := seconds % 86400
    let args := if rest = 0 then s!"days={days}" else s!"days={days}, seconds={rest}"
    .error <| .outOfRange <| "offset must be a timedelta strictly between " ++
      s!"-timedelta(hours=24) and timedelta(hours=24), not datetime.timedelta({args})."

def offsetText (seconds : Int) : String :=
  let s := seconds.natAbs
  (if seconds < 0 then "-" else "+") ++ s!"{padded 2 (s / 3600)}:{padded 2 (s / 60 % 60)}"

def isoText (m : Moment) : String :=
  s!"{m.date.isoText} {padded 2 m.hour}:{padded 2 m.minute}:{padded 2 m.second}" ++
    (if m.microsecond = 0 then "" else s!".{padded 6 m.microsecond}") ++
    (m.offset.map offsetText).getD ""

def offsetInnerText (seconds : Int) : String :=
  if seconds = 0 then "datetime.timezone.utc"
  else
    let days := seconds / 86400
    let rest := seconds % 86400
    let args := (if days = 0 then [] else [s!"days={days}"]) ++ (if rest = 0 then [] else [s!"seconds={rest}"])
    let list := ", ".intercalate args
    s!"datetime.timezone(datetime.timedelta({list}))"

def innerText (m : Moment) : String :=
  let smallest :=
    if m.microsecond ≠ 0 then [m.second, m.microsecond] else if m.second ≠ 0 then [m.second] else []
  let numbers := [m.date.year, m.date.month, m.date.day, m.hour, m.minute] ++ smallest
  let zone := m.offset.map fun seconds => "tzinfo=" ++ offsetInnerText seconds
  "datetime.datetime(" ++ ", ".intercalate (numbers.map toString ++ zone.toList) ++ ")"

end Moment
end Chatline
