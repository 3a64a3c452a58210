/-
Module: RubyBindings.Toml.DateTime
Purpose: Dates and times as TOML writes them: a date, a time, or both with an optional offset. The
  seconds of a time may be left out.
Main exports: isDateTime
-/

namespace RubyBindings.Toml

/-- The number of two decimal digits. -/
def twoDigits? (tens ones : Char) : Option Nat :=
  if tens.isDigit && ones.isDigit then
    some ((tens.toNat - '0'.toNat) * 10 + (ones.toNat - '0'.toNat))
  else none

/-- Is a year a leap year? -/
def isLeapYear (year : Nat) : Bool :=
  year % 4 == 0 && (year % 100 != 0 || year % 400 == 0)

/-- The number of days of a month. -/
def daysInMonth (year month : Nat) : Nat :=
  match month with
  | 2 => if isLeapYear year then 29 else 28
  | 4 | 6 | 9 | 11 => 30
  | _ => 31

/-- Is a literal a date of the calendar? -/
def isDate : List Char → Bool
  | [y1, y2, y3, y4, '-', m1, m2, '-', d1, d2] =>
    match twoDigits? y1 y2, twoDigits? y3 y4, twoDigits? m1 m2, twoDigits? d1 d2 with
    | some century, some year, some month, some day =>
      decide (1 ≤ month) && decide (month ≤ 12) && decide (1 ≤ day) &&
        decide (day ≤ daysInMonth (century * 100 + year) month)
    | _, _, _, _ => false
  | _ => false

/-- Hours and minutes within their ranges. -/
def isHourMinute (h1 h2 m1 m2 : Char) : Bool :=
  (twoDigits? h1 h2).any (· ≤ 23) && (twoDigits? m1 m2).any (· ≤ 59)

/-- What may follow the minutes: nothing, or seconds with an optional fraction. -/
def isSecondPart : List Char → Bool
  | [] => true
  | [':', s1, s2] => (twoDigits? s1 s2).any (· ≤ 60)
  | ':' :: s1 :: s2 :: '.' :: fraction =>
    (twoDigits? s1 s2).any (· ≤ 60) && !fraction.isEmpty && fraction.all Char.isDigit
  | _ => false

/-- Is a literal a time of day? -/
def isTime : List Char → Bool
  | h1 :: h2 :: ':' :: m1 :: m2 :: rest => isHourMinute h1 h2 m1 m2 && isSecondPart rest
  | _ => false

/-- Is a literal an offset from universal time? -/
def isOffset : List Char → Bool
  | ['Z'] => true
  | ['z'] => true
  | [sign, h1, h2, ':', m1, m2] => (sign == '+' || sign == '-') && isHourMinute h1 h2 m1 m2
  | _ => false

/-- Does a character begin an offset? -/
def beginsOffset (character : Char) : Bool :=
  character == 'Z' || character == 'z' || character == '+' || character == '-'

/-- Is a literal a time of day with an optional offset? -/
def isTimeWithOffset (literal : List Char) : Bool :=
  let offset := literal.dropWhile (! beginsOffset ·)
  isTime (literal.takeWhile (! beginsOffset ·)) && (offset.isEmpty || isOffset offset)

/-- Is a literal a date, a time of day, or a date and a time with an optional offset? -/
def isDateTime (literal : List Char) : Bool :=
  isTime literal || isDate literal ||
    (isDate (literal.take 10) &&
      match literal.drop 10 with
      | separator :: time =>
        (separator == 'T' || separator == 't' || separator == ' ') && isTimeWithOffset time
      | [] => false)

end RubyBindings.Toml
