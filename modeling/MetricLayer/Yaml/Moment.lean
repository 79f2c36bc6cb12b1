import MetricLayer.Value.Text
import MetricLayer.Yaml.Tag

/-!
# Days and moments of documents

The value of a written day or moment. Fractions of a second are rounded to microseconds, which
may carry over to the next second. A day that the calendar does not have is refused.
-/
namespace MetricLayer.Yaml

/-- Whether a year has a day more. -/
def isLeap (year : Nat) : Bool :=
  year % 4 == 0 && (year % 100 != 0 || year % 400 == 0)

/-- The number of days of a month. -/
def monthLength (year month : Nat) : Nat :=
  if month == 2 then if isLeap year then 29 else 28
  else if [4, 6, 9, 11].contains month then 30 else 31

/-- The day with a given number in a month. -/
def checkDay (year month day : Nat) : Except Flaw Day :=
  if year == 0 then .error (.badValue "year 0 is out of range")
  else if month == 0 || 12 < month then .error (.badValue "month must be in 1..12")
  else if day == 0 || monthLength year month < day then
    .error (.badValue "day is out of range for month")
  else .ok ⟨year, month, day⟩

/-- Whether hour, minute and second are those of a day. -/
def checkTime (hour minute second : Nat) : Except Flaw Unit :=
  if 24 ≤ hour then .error (.badValue "hour must be in 0..23")
  else if 60 ≤ minute then .error (.badValue "minute must be in 0..59")
  else if 60 ≤ second then .error (.badValue "second must be in 0..59")
  else .ok ()

/-- The day after a day. -/
def dayAfter (d : Day) : Day :=
  if d.day < monthLength d.year d.month then { d with day := d.day + 1 }
  else if d.month < 12 then { d with month := d.month + 1, day := 1 }
  else ⟨d.year + 1, 1, 1⟩

/-- The second after a moment. -/
def secondAfter (d : Day) (t : TimeOfDay) : Day × TimeOfDay :=
  if t.second < 59 then (d, { t with second := t.second + 1 })
  else if t.minute < 59 then (d, { t with minute := t.minute + 1, second := 0 })
  else if t.hour < 23 then (d, { t with hour := t.hour + 1, minute := 0, second := 0 })
  else (dayAfter d, { t with hour := 0, minute := 0, second := 0 })

/-- The microseconds of a fraction of a second, rounded by the seventh digit. -/
def microseconds (fraction : List Char) : Nat :=
  let six := (fraction.take 6) ++ List.replicate (6 - fraction.length) '0'
  let seventh := (fraction.drop 6).head?.elim false ('5' ≤ ·)
  Number.plainNat six + (if seventh then 1 else 0)

/-- The length of time that is too long for an offset, as it is written in the message. -/
def offsetSpan (minutes : Int) : String :=
  let days := minutes.fdiv 1440
  let seconds := (minutes.fmod 1440) * 60
  "datetime.timedelta(days=" ++ toString days ++
    (if seconds == 0 then ")" else ", seconds=" ++ toString seconds ++ ")")

/-- The minutes of an offset from universal time, which is shorter than a day. -/
def checkOffset (sign : Option Char) (hours minutes : List Char) : Except Flaw Int :=
  let total : Int := Number.plainNat hours * 60 + Number.plainNat minutes
  let total := if sign == some '-' then -total else total
  if 1440 ≤ total.natAbs then
    .error (.badValue ("offset must be a timedelta strictly between -timedelta(hours=24) and " ++
      "timedelta(hours=24), not " ++ offsetSpan total ++ "."))
  else .ok total

/-- The value of a written day or moment. -/
def momentValue (m : Form.Moment) : Except Flaw Value := do
  let number := Number.plainNat
  match m.time with
  | none => return .date (← checkDay (number m.year) (number m.month) (number m.day))
  | some (hour, minute, second) =>
    let offsetMinutes ← m.offset.mapM fun (sign, h, m) => checkOffset sign h m
    let d ← checkDay (number m.year) (number m.month) (number m.day)
    checkTime (number hour) (number minute) (number second)
    let micro := microseconds m.fraction
    let t : TimeOfDay := ⟨number hour, number minute, number second, micro, offsetMinutes⟩
    if micro < 1000000 then return .moment d t
    else
      let (d, t) := secondAfter d { t with microsecond := 0 }
      return .moment d t

end MetricLayer.Yaml
