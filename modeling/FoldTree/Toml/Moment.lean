import FoldTree.Decimal.Shortest

/-! Dates and times, which TOML has as values of their own, and their texts. -/

namespace FoldTree.Toml

/-- A day of a calendar year. -/
structure Date where
  year : Nat
  month : Nat
  day : Nat
deriving DecidableEq, Repr

/-- A time of day, with millionths of seconds. -/
structure Time where
  hour : Nat
  minute : Nat
  second : Nat
  micro : Nat
deriving DecidableEq, Repr

/-- A date, a time, or both with the minutes by which they are ahead of universal time, if known. -/
inductive Moment where
  | date (day : Date)
  | time (clock : Time)
  | dateTime (day : Date) (clock : Time) (offset : Option Int)
deriving DecidableEq, Repr

/-- A number in decimal digits, with zeros in front up to a width. -/
def padded (width n : Nat) : String :=
  let digits := toString n
  String.ofList (List.replicate (width - digits.length) '0') ++ digits

namespace Date

/-- Whether a year has a leap day. -/
def isLeap (year : Nat) : Bool :=
  year % 4 == 0 && (year % 100 != 0 || year % 400 == 0)

/-- The number of days in a month. -/
def daysIn (year month : Nat) : Nat :=
  if month = 2 then if isLeap year then 29 else 28
  else if month = 4 ∨ month = 6 ∨ month = 9 ∨ month = 11 then 30
  else 31

/-- Whether a date is in the calendar, which starts with year one. -/
def isValid (date : Date) : Bool :=
  0 < date.year && 0 < date.month && date.month ≤ 12 && 0 < date.day
    && date.day ≤ daysIn date.year date.month

/-- The text of a date. -/
def text (date : Date) : String :=
  s!"{padded 4 date.year}-{padded 2 date.month}-{padded 2 date.day}"

end Date

namespace Time

/-- The text of a time; millionths are left out when there are none. -/
def text (time : Time) : String :=
  let whole := s!"{padded 2 time.hour}:{padded 2 time.minute}:{padded 2 time.second}"
  if time.micro = 0 then whole else whole ++ "." ++ padded 6 time.micro

/-- The parts of a time; seconds and millionths are left out from the end while they are zero. -/
def parts (time : Time) : List Nat :=
  [time.hour, time.minute]
    ++ (if time.second = 0 ∧ time.micro = 0 then [] else [time.second])
    ++ (if time.micro = 0 then [] else [time.micro])

end Time

namespace Moment

/-- The text of an offset from universal time. -/
def offsetText (offset : Int) : String :=
  let size := offset.natAbs
  (if offset < 0 then "-" else "+") ++ s!"{padded 2 (size / 60)}:{padded 2 (size % 60)}"

/-- The text of a moment. -/
def text : Moment → String
  | .date day => day.text
  | .time clock => clock.text
  | .dateTime day clock offset =>
    day.text ++ " " ++ clock.text ++ (offset.map offsetText).getD ""

/-- The text of a length of time below a day; a negative one counts from a day before. -/
def lengthText (minutes : Int) : String :=
  if minutes < 0 then s!"datetime.timedelta(days=-1, seconds={(minutes + 1440) * 60})"
  else s!"datetime.timedelta(seconds={minutes * 60})"

/-- The text of an offset inside the call that makes a moment. -/
def zoneText : Option Int → List String
  | none => []
  | some offset =>
    [if offset = 0 then "tzinfo=datetime.timezone.utc"
      else s!"tzinfo=datetime.timezone({lengthText offset})"]

/-- The text of a moment as the call that makes it. -/
def callText : Moment → String
  | .date day => s!"datetime.date({day.year}, {day.month}, {day.day})"
  | .time clock => "datetime.time(" ++ ", ".intercalate (clock.parts.map toString) ++ ")"
  | .dateTime day clock offset =>
    let parts := [day.year, day.month, day.day] ++ clock.parts
    "datetime.datetime(" ++ ", ".intercalate (parts.map toString ++ zoneText offset) ++ ")"

end Moment

end FoldTree.Toml
