namespace ParamSql

/-- Whether a year of the Gregorian calendar has 366 days. -/
def isLeapYear (year : Int) : Bool :=
  year % 4 = 0 && (year % 100 ≠ 0 || year % 400 = 0)

def daysInMonth (year : Int) (month : Nat) : Nat :=
  if month = 2 then (if isLeapYear year then 29 else 28)
  else if month = 4 || month = 6 || month = 9 || month = 11 then 30
  else 31

/-- A day of the Gregorian calendar, extended to all years. -/
structure Date where
  year : Int
  month : Nat
  day : Nat
  month_le : month ≤ 12
  day_le : day ≤ daysInMonth year month
  month_pos : 0 < month
  day_pos : 0 < day
  deriving DecidableEq

/-- The day with these numbers, if the calendar has it. -/
def Date.ofNumbers? (year : Int) (month day : Nat) : Option Date :=
  if h : month ≤ 12 ∧ day ≤ daysInMonth year month ∧ 0 < month ∧ 0 < day then
    some ⟨year, month, day, h.1, h.2.1, h.2.2.1, h.2.2.2⟩
  else none

/-- A moment of a day, without a time zone. In the last second of a minute the nanoseconds may run
to two seconds: the second half is a leap second. -/
structure Moment where
  date : Date
  hour : Nat
  minute : Nat
  second : Nat
  nanosecond : Nat
  hour_lt : hour < 24
  minute_lt : minute < 60
  second_lt : second < 60
  nanosecond_lt : nanosecond < 2000000000
  leap : 1000000000 ≤ nanosecond → second = 59
  deriving DecidableEq

/-- The moment with these numbers, if the day has it. -/
def Moment.ofNumbers? (date : Date) (hour minute second nanosecond : Nat) : Option Moment :=
  if h : hour < 24 ∧ minute < 60 ∧ second < 60 ∧ nanosecond < 2000000000 ∧
      (1000000000 ≤ nanosecond → second = 59) then
    some ⟨date, hour, minute, second, nanosecond, h.1, h.2.1, h.2.2.1, h.2.2.2.1, h.2.2.2.2⟩
  else none

namespace Calendar

/-- A number in decimal digits, with zeros in front up to the given width. -/
def padded (width n : Nat) : List Char :=
  let digits := Nat.toDigits 10 n
  List.replicate (width - digits.length) '0' ++ digits

/-- A year: four digits in the common range, elsewhere a sign and at least four digits. -/
def yearText (year : Int) : List Char :=
  if 0 ≤ year && year ≤ 9999 then padded 4 year.toNat
  else (if year < 0 then '-' else '+') :: padded 4 year.natAbs

end Calendar

namespace Date

/-- The characters of `year-month-day`. -/
def chars (d : Date) : List Char :=
  Calendar.yearText d.year ++ '-' :: Calendar.padded 2 d.month ++ '-' :: Calendar.padded 2 d.day

/-- The text `year-month-day`. -/
def text (d : Date) : String :=
  String.ofList d.chars

end Date

namespace Moment

/-- The second as it is written: a leap second is the sixtieth. -/
def shownSecond (m : Moment) : Nat :=
  m.second + m.nanosecond / 1000000000

/-- The characters of `hour:minute:second`. -/
def clockChars (m : Moment) : List Char :=
  Calendar.padded 2 m.hour ++ ':' :: Calendar.padded 2 m.minute ++
    ':' :: Calendar.padded 2 m.shownSecond

/-- The text `hour:minute:second`. -/
def clockText (m : Moment) : String :=
  String.ofList m.clockChars

/-- The text `year-month-day hour:minute:second`. Fractions of a second are left out. -/
def text (m : Moment) : String :=
  String.ofList (m.date.chars ++ ' ' :: m.clockChars)

/-- The fraction of a second with three, six or nine digits, as few as keep it exact. -/
def fractionChars (m : Moment) : List Char :=
  let n := m.nanosecond % 1000000000
  if n = 0 then []
  else if n % 1000000 = 0 then '.' :: Calendar.padded 3 (n / 1000000)
  else if n % 1000 = 0 then '.' :: Calendar.padded 6 (n / 1000)
  else '.' :: Calendar.padded 9 n

/-- The moment in full, as messages show it. -/
def fullText (m : Moment) : String :=
  String.ofList (m.date.chars ++ 'T' :: m.clockChars ++ m.fractionChars)

end Moment

end ParamSql
