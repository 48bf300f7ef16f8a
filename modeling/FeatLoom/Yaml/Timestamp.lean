import FeatLoom.Text.Digit

/-!
# Dates and times

Days of the calendar in use today, from the year 1 to the year 9999, perhaps with a time of day to
the microsecond, and perhaps with the distance of that time from universal time.
-/

namespace FeatLoom.Yaml

structure TimeOfDay where
  hour : Nat
  minute : Nat
  second : Nat
  microsecond : Nat
  ahead : Option Int
  deriving DecidableEq

structure Timestamp where
  year : Nat
  month : Nat
  day : Nat
  time : Option TimeOfDay := none
  deriving DecidableEq

def isLeapYear (year : Nat) : Bool :=
  year % 4 == 0 && (year % 100 != 0 || year % 400 == 0)

def daysIn (year month : Nat) : Nat :=
  if month == 2 then (if isLeapYear year then 29 else 28)
  else if [4, 6, 9, 11].contains month then 30
  else 31

namespace TimeOfDay

def dayMinutes : Nat := 1440

def isOnClock (time : TimeOfDay) : Bool :=
  time.hour < 24 && time.minute < 60 && time.second < 60 &&
    time.ahead.all fun minutes => minutes.natAbs < dayMinutes

end TimeOfDay

namespace Timestamp

def isInCalendar (stamp : Timestamp) : Bool :=
  1 ≤ stamp.year && 1 ≤ stamp.month && stamp.month ≤ 12 && 1 ≤ stamp.day &&
    stamp.day ≤ daysIn stamp.year stamp.month && stamp.time.all TimeOfDay.isOnClock

/-! ## Text -/

def padded (width n : Nat) : String :=
  let digits := Nat.toDigits 10 n
  String.ofList (List.replicate (width - digits.length) '0' ++ digits)

def aheadText (minutes : Int) : String :=
  (if minutes < 0 then "-" else "+") ++ padded 2 (minutes.natAbs / 60) ++ ":" ++
    padded 2 (minutes.natAbs % 60)

def timeText (time : TimeOfDay) : String :=
  padded 2 time.hour ++ ":" ++ padded 2 time.minute ++ ":" ++ padded 2 time.second ++
    (if time.microsecond == 0 then "" else "." ++ padded 6 time.microsecond) ++
    ((time.ahead.map aheadText).getD "")

def toText (stamp : Timestamp) : String :=
  padded 4 stamp.year ++ "-" ++ padded 2 stamp.month ++ "-" ++ padded 2 stamp.day ++
    ((stamp.time.map fun time => " " ++ timeText time).getD "")

def aheadParts (minutes : Int) : String :=
  let seconds := minutes * 60
  if minutes == 0 then "datetime.timezone.utc"
  else
    "datetime.timezone(datetime.timedelta(" ++
      (if seconds < 0 then "days=-1, seconds=" ++ toString (seconds + 86400)
        else "seconds=" ++ toString seconds) ++ "))"

def timeParts (time : TimeOfDay) : List Nat :=
  if time.microsecond ≠ 0 then [time.hour, time.minute, time.second, time.microsecond]
  else if time.second ≠ 0 then [time.hour, time.minute, time.second]
  else [time.hour, time.minute]

def partsText (stamp : Timestamp) : String :=
  let day := [stamp.year, stamp.month, stamp.day].map toString
  match stamp.time with
  | none => "datetime.date(" ++ ", ".intercalate day ++ ")"
  | some time =>
    let ahead := (time.ahead.map fun minutes => "tzinfo=" ++ aheadParts minutes).toList
    "datetime.datetime(" ++ ", ".intercalate (day ++ (timeParts time).map toString ++ ahead) ++ ")"

/-! ## Reading -/

def isAsciiDigit (c : Char) : Bool := '0' ≤ c && c ≤ '9'

def field? (least most : Nat) (text : List Char) : Option (Nat × List Char) :=
  let digits := (text.take most).takeWhile isAsciiDigit
  if least ≤ digits.length then
    some (Text.ofDigits 10 (digits.map fun c => c.toNat - 48), text.drop digits.length)
  else none

def after? (sign : Char) (least most : Nat) : List Char → Option (Nat × List Char)
  | c :: rest => if c == sign then field? least most rest else none
  | [] => none

def microseconds (text : List Char) : Nat × List Char :=
  match text with
  | '.' :: rest =>
    let digits := rest.takeWhile isAsciiDigit
    let kept := (digits ++ List.replicate 6 '0').take 6
    (Text.ofDigits 10 (kept.map fun c => c.toNat - 48), rest.drop digits.length)
  | _ => (0, text)

def isSpacing (c : Char) : Bool := c == ' ' || c == '\t'

def ahead? (text : List Char) : Option (Option Int) :=
  match text.dropWhile isSpacing with
  | [] => if text.isEmpty then some none else none
  | ['Z'] => some (some 0)
  | sign :: rest => do
    guard (sign == '+' || sign == '-')
    let (hours, left) ← field? 1 2 rest
    let (minutes, left) ← if left.isEmpty then some (0, []) else after? ':' 2 2 left
    guard left.isEmpty
    let total : Int := ((hours * 60 + minutes : Nat) : Int)
    some (some (if sign == '-' then -total else total))

def time? (text : List Char) : Option TimeOfDay := do
  let (hour, left) ← field? 1 2 text
  let (minute, left) ← after? ':' 2 2 left
  let (second, left) ← after? ':' 2 2 left
  let (microsecond, left) := microseconds left
  let ahead ← ahead? left
  some { hour, minute, second, microsecond, ahead }

def timeStart? : List Char → Option (List Char)
  | 'T' :: rest => some rest
  | 't' :: rest => some rest
  | c :: rest => if isSpacing c then some (rest.dropWhile isSpacing) else none
  | [] => none

def ofText? (text : List Char) : Option Timestamp := do
  let (year, left) ← field? 4 4 text
  let (month, left) ← after? '-' 1 2 left
  let (day, left) ← after? '-' 1 2 left
  match left with
  | [] => some { year, month, day }
  | _ => do
    let time ← time? (← timeStart? left)
    some { year, month, day, time := some time }

def isPlain (text : List Char) : Bool :=
  match ofText? text with
  | some { time := none, .. } => text.length == 10
  | some _ => true
  | none => false

example :
    (ofText? "2001-12-14T21:59:43Z".toList).map toText = some "2001-12-14 21:59:43+00:00" := by
  decide +kernel
example : isPlain "2001-1-1".toList = false := by decide +kernel

end Timestamp

end FeatLoom.Yaml
