import RownumSql.Text.Numeral

/-!
# Calendar dates

Dates of the proleptic Gregorian calendar and times of day without a zone.  A value of either type
exists on the calendar: the fields carry their bounds.
-/

namespace RownumSql.Calendar

open RownumSql.Text

/-! ## Dates -/

/-- The leap year rule; year 0 is a leap year. -/
def isLeap (year : Int) : Bool := year % 4 = 0 && (year % 100 ≠ 0 || year % 400 = 0)

def daysIn (year : Int) (month : Nat) : Nat :=
  if month = 2 then (if isLeap year then 29 else 28)
  else if month = 4 || month = 6 || month = 9 || month = 11 then 30
  else 31

/-- The year is within range, and the month and the day exist. -/
def OnCalendar (year : Int) (month day : Nat) : Prop :=
  (-262143 ≤ year ∧ year ≤ 262142) ∧ (1 ≤ month ∧ month ≤ 12) ∧ (1 ≤ day ∧ day ≤ daysIn year month)

instance (year : Int) (month day : Nat) : Decidable (OnCalendar year month day) :=
  inferInstanceAs (Decidable (_ ∧ _))

/-- A day of the calendar. -/
structure Date where
  year : Int
  month : Nat
  day : Nat
  onCalendar : OnCalendar year month day
deriving DecidableEq, Repr

/-- The date with these parts, if there is one. -/
def Date.ofParts? (year : Int) (month day : Nat) : Option Date :=
  if h : OnCalendar year month day then some ⟨year, month, day, h⟩ else none

/-- A year has four digits, and a sign in front unless it lies in 0 to 9999. -/
def yearText (year : Int) : List Char :=
  if 0 ≤ year && year ≤ 9999 then padded 4 year.natAbs
  else (if year < 0 then '-' else '+') :: padded 4 year.natAbs

/-- Year, month and day joined by hyphens. -/
def Date.chars (d : Date) : List Char :=
  yearText d.year ++ '-' :: padded 2 d.month ++ '-' :: padded 2 d.day

/-! ## Moments -/

/-- A time on a day, to the nanosecond; second 60 is a leap second. -/
structure Moment where
  date : Date
  hour : Fin 24
  minute : Fin 60
  second : Fin 61
  nanosecond : Fin 1000000000
deriving DecidableEq, Repr

/-- Hours, minutes and seconds joined by colons. -/
def Moment.clockChars (t : Moment) : List Char :=
  padded 2 t.hour ++ ':' :: padded 2 t.minute ++ ':' :: padded 2 t.second

/-- A point and three, six or nine digits, as few as are exact; nothing for a full second. -/
def fractionChars (nanosecond : Nat) : List Char :=
  if nanosecond = 0 then []
  else if nanosecond % 1000000 = 0 then '.' :: padded 3 (nanosecond / 1000000)
  else if nanosecond % 1000 = 0 then '.' :: padded 6 (nanosecond / 1000)
  else '.' :: padded 9 nanosecond

/-- The exact text of a moment, with a `T` before the time. -/
def Moment.chars (t : Moment) : List Char :=
  t.date.chars ++ 'T' :: t.clockChars ++ fractionChars t.nanosecond

/-- The text of a moment for a reader: a blank before the time, and no fraction. -/
def Moment.plainChars (t : Moment) : List Char := t.date.chars ++ ' ' :: t.clockChars

end RownumSql.Calendar
