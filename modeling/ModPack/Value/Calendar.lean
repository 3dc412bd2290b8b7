/-!
# Dates and moments

Calendar dates of the years 1 to 9999 and moments with an optional offset from universal time.
A field outside its range is an error of its own. Main statement: a checked date has a day that its
month has.
-/
namespace ModPack

structure Date where
  year : Nat
  month : Nat
  day : Nat
  deriving DecidableEq, Repr

/-- A date with a time of day; `offset` is in minutes from universal time. -/
structure Moment where
  date : Date
  hour : Nat
  minute : Nat
  second : Nat
  microsecond : Nat
  offset : Option Int
  deriving DecidableEq, Repr

inductive CalendarError
  | year (year : Nat)
  | month
  | day
  | hour
  | minute
  | second
  /-- An offset of a whole day or more. -/
  | offset (minutes : Int)
  deriving DecidableEq, Repr

namespace Date

def isLeap (year : Nat) : Bool :=
  year % 4 = 0 && (year % 100 ≠ 0 || year % 400 = 0)

def daysIn (year month : Nat) : Nat :=
  if month = 2 then if isLeap year then 29 else 28
  else if month = 4 ∨ month = 6 ∨ month = 9 ∨ month = 11 then 30
  else 31

def check (year month day : Nat) : Except CalendarError Date :=
  if year < 1 ∨ 9999 < year then .error (.year year)
  else if month < 1 ∨ 12 < month then .error .month
  else if day < 1 ∨ daysIn year month < day then .error .day
  else .ok ⟨year, month, day⟩

theorem day_le_of_check {year month day : Nat} {date : Date}
    (h : check year month day = .ok date) : date.day ≤ daysIn date.year date.month := by
  unfold check at h
  split at h
  · cases h
  · split at h
    · cases h
    · split at h
      · cases h
      · cases h; simp only; omega

/-- A number with zeros in front up to a width. -/
def field (width value : Nat) : String :=
  let digits := toString value
  .ofList (List.replicate (width - digits.length) '0') ++ digits

def isoText (date : Date) : String :=
  field 4 date.year ++ "-" ++ field 2 date.month ++ "-" ++ field 2 date.day

def arguments (date : Date) : String :=
  toString date.year ++ ", " ++ toString date.month ++ ", " ++ toString date.day

def literal (date : Date) : String :=
  "datetime.date(" ++ date.arguments ++ ")"

end Date

/-- A span of minutes by its days, which carry the sign, and the seconds left over. -/
def spanLiteral (minutes : Int) : String :=
  let days := minutes / (24 * 60)
  let seconds := (minutes - days * (24 * 60)) * 60
  let parts := (if days = 0 then [] else ["days=" ++ toString days]) ++
    (if seconds = 0 then [] else ["seconds=" ++ toString seconds])
  "datetime.timedelta(" ++ (if parts = [] then "0" else ", ".intercalate parts) ++ ")"

namespace Moment

def check (date : Except CalendarError Date) (hour minute second microsecond : Nat)
    (offset : Option Int) : Except CalendarError Moment := do
  if let some minutes := offset then
    if 24 * 60 ≤ minutes.natAbs then throw (.offset minutes)
  let date ← date
  if 23 < hour then throw .hour
  if 59 < minute then throw .minute
  if 59 < second then throw .second
  return ⟨date, hour, minute, second, microsecond, offset⟩

def literal (moment : Moment) : String :=
  let time := [moment.hour, moment.minute] ++
    (if moment.microsecond ≠ 0 then [moment.second, moment.microsecond]
    else if moment.second ≠ 0 then [moment.second] else [])
  let zone := match moment.offset with
    | none => ""
    | some 0 => ", tzinfo=datetime.timezone.utc"
    | some minutes => ", tzinfo=datetime.timezone(" ++ spanLiteral minutes ++ ")"
  "datetime.datetime(" ++ moment.date.arguments ++ ", " ++
    ", ".intercalate (time.map toString) ++ zone ++ ")"

def isoText (moment : Moment) : String :=
  let fraction := if moment.microsecond = 0 then "" else "." ++ Date.field 6 moment.microsecond
  let zone := match moment.offset with
    | none => ""
    | some minutes => (if minutes < 0 then "-" else "+") ++ Date.field 2 (minutes.natAbs / 60) ++
      ":" ++ Date.field 2 (minutes.natAbs % 60)
  moment.date.isoText ++ " " ++ Date.field 2 moment.hour ++ ":" ++ Date.field 2 moment.minute ++
    ":" ++ Date.field 2 moment.second ++ fraction ++ zone

end Moment

def CalendarError.message : CalendarError → String
  | year value => "year " ++ toString value ++ " is out of range"
  | month => "month must be in 1..12"
  | day => "day is out of range for month"
  | hour => "hour must be in 0..23"
  | minute => "minute must be in 0..59"
  | second => "second must be in 0..59"
  | offset minutes =>
    "offset must be a timedelta strictly between -timedelta(hours=24) and " ++
      "timedelta(hours=24), not " ++ spanLiteral minutes ++ "."

end ModPack
