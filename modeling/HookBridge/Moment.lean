/-
**Moments, and texts of them.**

A moment is written by a pattern, in which `%` and a letter stand for a part of the moment.

Main definitions:

* `HookBridge.Moment` — a date and a time of day, and how far the clock is ahead of the common one;
* `HookBridge.Moment.dayOfYear`, `HookBridge.Moment.weekday` — what follows from the date;
* `HookBridge.Moment.write` — the moment by a pattern.
-/

set_option relaxedAutoImplicit false
set_option autoImplicit false

namespace HookBridge

/-- A date and a time of day. -/
structure Moment where
  year : Nat
  /-- from 1 on -/
  month : Nat
  /-- from 1 on -/
  day : Nat
  hour : Nat
  minute : Nat
  second : Nat
  nanosecond : Nat
  /-- how many minutes the clock is ahead of the common one -/
  ahead : Int
  deriving DecidableEq, Repr, Inhabited

namespace Moment

/-! ### Calendar -/

/-- The names of the months. -/
def monthNames : List String :=
  ["January", "February", "March", "April", "May", "June", "July", "August", "September",
   "October", "November", "December"]

/-- The names of the days of a week, from Sunday on. -/
def weekdayNames : List String :=
  ["Sunday", "Monday", "Tuesday", "Wednesday", "Thursday", "Friday", "Saturday"]

/-- The year has a leap day. -/
def isLeap (year : Nat) : Bool := year % 4 == 0 && (year % 100 != 0 || year % 400 == 0)

/-- The days of a year before its `month`-th month. -/
def daysBefore (year month : Nat) : Nat :=
  let lengths := [31, if isLeap year then 29 else 28, 31, 30, 31, 30, 31, 31, 30, 31, 30, 31]
  (lengths.take (month - 1)).foldl Nat.add 0

/-- The day of the year, from 1 on. -/
def dayOfYear (m : Moment) : Nat := daysBefore m.year m.month + m.day

/-- The days from the first day of year 1 to the first day of a year. -/
def daysToYear (year : Nat) : Nat :=
  let years := year - 1
  365 * years + years / 4 - years / 100 + years / 400

/-- The day of the week, Sunday being 0. -/
def weekday (m : Moment) : Nat := (daysToYear m.year + m.dayOfYear) % 7

/-- The hour on the face of a clock. -/
def hour12 (m : Moment) : Nat := if m.hour % 12 = 0 then 12 else m.hour % 12

/-- The seconds from the beginning of 1970 on a clock that is not ahead. -/
def timestamp (m : Moment) : Int :=
  ((daysToYear m.year + m.dayOfYear : Nat) - (daysToYear 1970 + 1 : Nat) : Int) * 86400 +
    (m.hour * 3600 + m.minute * 60 + m.second : Nat) - m.ahead * 60

/-! ### Texts -/

/-- A number in at least `width` places, the free ones filled. -/
def padded (fill : Char) (width n : Nat) : List Char :=
  let digits := Nat.toDigits 10 n
  List.replicate (width - digits.length) fill ++ digits

/-- A number with two digits. -/
def two (n : Nat) : List Char := padded '0' 2 n

/-- The name of a number. -/
def named (names : List String) (n : Nat) : List Char := (names[n]?.getD "").toList

/-- How far the clock is ahead, with hours and minutes apart by `separator`. -/
def zone (m : Moment) (separator : List Char) : List Char :=
  (if m.ahead < 0 then '-' else '+') ::
    (two (m.ahead.natAbs / 60) ++ separator ++ two (m.ahead.natAbs % 60))

/-- The date from the year down to the day. -/
def date (m : Moment) : List Char := padded '0' 4 m.year ++ '-' :: two m.month ++ '-' :: two m.day

/-- The time from the hour down to the minute. -/
def clock (m : Moment) : List Char := two m.hour ++ ':' :: two m.minute

/-- The time from the hour down to the second. -/
def clockWithSeconds (m : Moment) : List Char := m.clock ++ ':' :: two m.second

/-- The date as month, day and year of the century. -/
def shortDate (m : Moment) : List Char :=
  two m.month ++ '/' :: two m.day ++ '/' :: two (m.year % 100)

/-- The name of the month in three letters. -/
def shortMonth (m : Moment) : List Char := (named monthNames (m.month - 1)).take 3

/-- The name of the day in three letters. -/
def shortWeekday (m : Moment) : List Char := (named weekdayNames m.weekday).take 3

/-- Which half of the day it is. -/
def half (m : Moment) : String := if m.hour < 12 then "am" else "pm"

/-- The part of a moment that a letter stands for. -/
def part? (m : Moment) : Char → Option (List Char)
  | '%' => some ['%']
  | 'n' => some ['\n']
  | 't' => some ['\t']
  | 'Y' => some (padded '0' 4 m.year)
  | 'C' => some (two (m.year / 100))
  | 'y' => some (two (m.year % 100))
  | 'm' => some (two m.month)
  | 'b' => some m.shortMonth
  | 'h' => some m.shortMonth
  | 'B' => some (named monthNames (m.month - 1))
  | 'd' => some (two m.day)
  | 'e' => some (padded ' ' 2 m.day)
  | 'j' => some (padded '0' 3 m.dayOfYear)
  | 'a' => some m.shortWeekday
  | 'A' => some (named weekdayNames m.weekday)
  | 'w' => some (padded '0' 1 m.weekday)
  | 'u' => some (padded '0' 1 (if m.weekday = 0 then 7 else m.weekday))
  | 'D' => some m.shortDate
  | 'x' => some m.shortDate
  | 'F' => some m.date
  | 'v' => some (padded ' ' 2 m.day ++ '-' :: m.shortMonth ++ '-' :: padded '0' 4 m.year)
  | 'H' => some (two m.hour)
  | 'k' => some (padded ' ' 2 m.hour)
  | 'I' => some (two m.hour12)
  | 'l' => some (padded ' ' 2 m.hour12)
  | 'P' => some m.half.toList
  | 'p' => some (m.half.toList.map Char.toUpper)
  | 'M' => some (two m.minute)
  | 'S' => some (two m.second)
  | 'f' => some (padded '0' 9 m.nanosecond)
  | 'R' => some m.clock
  | 'T' => some m.clockWithSeconds
  | 'X' => some m.clockWithSeconds
  | 'r' => some (two m.hour12 ++ ':' :: two m.minute ++ ':' :: two m.second ++
      ' ' :: m.half.toList.map Char.toUpper)
  | 'z' => some (m.zone [])
  | 'Z' => some (m.zone [':'])
  | 'c' => some (m.shortWeekday ++ ' ' :: m.shortMonth ++ ' ' :: padded ' ' 2 m.day ++
      ' ' :: m.clockWithSeconds ++ ' ' :: padded '0' 4 m.year)
  | '+' => some (m.date ++ 'T' :: m.clockWithSeconds ++ '.' :: padded '0' 9 m.nanosecond ++
      m.zone [':'])
  | 's' => some (toString m.timestamp).toList
  | _ => none

/-- The moment by a pattern.  A letter that stands for nothing is kept. -/
def write (m : Moment) : List Char → List Char
  | '%' :: '.' :: '3' :: 'f' :: rest =>
      '.' :: padded '0' 3 (m.nanosecond / 1000000) ++ m.write rest
  | '%' :: '.' :: '6' :: 'f' :: rest => '.' :: padded '0' 6 (m.nanosecond / 1000) ++ m.write rest
  | '%' :: '.' :: '9' :: 'f' :: rest => '.' :: padded '0' 9 m.nanosecond ++ m.write rest
  | '%' :: ':' :: 'z' :: rest => m.zone [':'] ++ m.write rest
  | '%' :: c :: rest =>
      match m.part? c with
      | some text => text ++ m.write rest
      | none => '%' :: c :: m.write rest
  | c :: rest => c :: m.write rest
  | [] => []

end Moment

end HookBridge
