/-!
Days, and moments with an optional distance from universal time. A day is checked when it is made.
-/

namespace SpanEdit.Calendar

inductive Fault where
  | year (year : Nat)
  | month
  | day
  | hour
  | minute
  | second
  | distance (days seconds : Int)

def isLeap (year : Nat) : Bool :=
  year % 4 == 0 && (year % 100 != 0 || year % 400 == 0)

def daysIn (year month : Nat) : Nat :=
  match month with
  | 2 => if isLeap year then 29 else 28
  | 4 | 6 | 9 | 11 => 30
  | _ => 31

structure Day where
  year : Nat
  month : Nat
  day : Nat
deriving DecidableEq

def Day.make (year month day : Nat) : Except Fault Day :=
  if year < 1 || 9999 < year then .error (.year year)
  else if month < 1 || 12 < month then .error .month
  else if day < 1 || daysIn year month < day then .error .day
  else .ok ⟨year, month, day⟩

structure Moment where
  day : Day
  hour : Nat
  minute : Nat
  second : Nat
  microsecond : Nat
  distance : Option Int
deriving DecidableEq

def daySeconds : Int := 86400

def Moment.make (day : Day) (hour minute second microsecond : Nat) (distance : Option Int) :
    Except Fault Moment :=
  if 23 < hour then .error .hour
  else if 59 < minute then .error .minute
  else if 59 < second then .error .second
  else .ok ⟨day, hour, minute, second, microsecond, distance⟩

def Day.number (day : Day) : Nat :=
  let years := day.year - 1
  let months := (List.range' 1 (day.month - 1)).map (daysIn day.year)
  365 * years + years / 4 - years / 100 + years / 400 + months.foldl (· + ·) 0 + day.day

def Moment.instant (moment : Moment) : Int :=
  let minutes : Int := (moment.day.number * 24 + moment.hour) * 60 + moment.minute
  (minutes * 60 + moment.second - moment.distance.getD 0) * 1000000 + moment.microsecond

def Moment.comparable (first second : Moment) : Bool :=
  first.distance.isSome == second.distance.isSome

def Moment.same (first second : Moment) : Bool :=
  first.comparable second && first.instant == second.instant

def checkDistance (seconds : Int) : Except Fault Int :=
  if -daySeconds < seconds && seconds < daySeconds then .ok seconds
  else .error (.distance (seconds / daySeconds) (seconds % daySeconds))

def padded (width number : Nat) : String :=
  let digits := toString number
  String.ofList (List.replicate (width - digits.length) '0') ++ digits

def Day.text (day : Day) : String :=
  s!"{padded 4 day.year}-{padded 2 day.month}-{padded 2 day.day}"

def distanceText (seconds : Int) : String :=
  let total := seconds.natAbs
  let tail := if total % 60 = 0 then "" else s!":{padded 2 (total % 60)}"
  let sign := if seconds < 0 then "-" else "+"
  s!"{sign}{padded 2 (total / 3600)}:{padded 2 (total / 60 % 60)}{tail}"

def Moment.text (moment : Moment) : String :=
  let clock := s!"{padded 2 moment.hour}:{padded 2 moment.minute}:{padded 2 moment.second}"
  let fraction := if moment.microsecond = 0 then "" else s!".{padded 6 moment.microsecond}"
  let zone := match moment.distance with
    | some seconds => distanceText seconds
    | none => ""
  s!"{moment.day.text} {clock}{fraction}{zone}"

def spanText (days seconds : Int) : String :=
  let parts := (if days = 0 then [] else [s!"days={days}"]) ++
    (if seconds = 0 then [] else [s!"seconds={seconds}"])
  let shown := if parts.isEmpty then "0" else ", ".intercalate parts
  s!"datetime.timedelta({shown})"

def Day.expression (day : Day) : String :=
  s!"datetime.date({day.year}, {day.month}, {day.day})"

def zoneExpression (seconds : Int) : String :=
  if seconds = 0 then "datetime.timezone.utc"
  else
    let span := spanText (seconds / daySeconds) (seconds % daySeconds)
    s!"datetime.timezone({span})"

def Moment.expression (moment : Moment) : String :=
  let clock :=
    if moment.microsecond ≠ 0 then [moment.second, moment.microsecond]
    else if moment.second ≠ 0 then [moment.second] else []
  let numbers :=
    [moment.day.year, moment.day.month, moment.day.day, moment.hour, moment.minute] ++ clock
  let zone := match moment.distance with
    | some seconds => [s!"tzinfo={zoneExpression seconds}"]
    | none => []
  let shown := ", ".intercalate (numbers.map toString ++ zone)
  s!"datetime.datetime({shown})"

def Fault.message : Fault → String
  | .year number => s!"year {number} is out of range"
  | .month => "month must be in 1..12"
  | .day => "day is out of range for month"
  | .hour => "hour must be in 0..23"
  | .minute => "minute must be in 0..59"
  | .second => "second must be in 0..59"
  | .distance days seconds =>
      "offset must be a timedelta strictly between -timedelta(hours=24) and " ++
        s!"timedelta(hours=24), not {spanText days seconds}."

end SpanEdit.Calendar
