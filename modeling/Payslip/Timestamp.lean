/-
# Points in time

When a payroll run was made: a day of the Gregorian calendar and a time of that day, in UTC, down
to the nanosecond. Points in time are read in the form of RFC 3339 with any offset from UTC, with
some leeway in blanks and in the number of digits.
-/

import Payslip.Number.Power
import Payslip.Text.Blank
import Payslip.Text.Digits

namespace Payslip

/-- A point in time. -/
structure Timestamp where
  /-- Days since 1 March of the year 0. -/
  day : Int
  /-- Seconds since midnight. -/
  second : Nat
  /-- Nanoseconds; a whole second more during a leap second. -/
  nanosecond : Nat
  deriving DecidableEq, Repr

namespace Timestamp

open Payslip.Text

/-- The number of days of a cycle of four hundred years. -/
def cycleDays : Int := 146097

/-- The days from 1 March of the year 0 to a date. The year is taken to begin in March, so that
the leap day is its last. -/
def dayOfDate (year : Int) (month date : Nat) : Int :=
  let year := if month ≤ 2 then year - 1 else year
  let month := if month ≤ 2 then month + 9 else month - 3
  let leaps := year.fdiv 4 - year.fdiv 100 + year.fdiv 400
  year * 365 + leaps + ((153 * month + 2) / 5 : Nat) + date - 1

/-- The year, month and date of a day. -/
def dateOfDay (day : Int) : Int × Nat × Nat :=
  let cycle := day.fdiv cycleDays
  let inCycle := (day.fmod cycleDays).toNat
  let yearOfCycle := (inCycle - inCycle / 1460 + inCycle / 36524 - inCycle / 146096) / 365
  let inYear := inCycle - (365 * yearOfCycle + yearOfCycle / 4 - yearOfCycle / 100)
  let month := (5 * inYear + 2) / 153
  let date := inYear - (153 * month + 2) / 5 + 1
  let year := cycle * 400 + yearOfCycle
  if month < 10 then (year, month + 3, date) else (year + 1, month - 9, date)

/-- The year has a 29 February. -/
def isLeapYear (year : Int) : Bool :=
  year.fmod 4 == 0 && (year.fmod 100 != 0 || year.fmod 400 == 0)

/-- The number of days of a month. -/
def daysInMonth (year : Int) (month : Nat) : Nat :=
  if month == 2 then if isLeapYear year then 29 else 28
  else if month == 4 || month == 6 || month == 9 || month == 11 then 30
  else 31

/-- Digits with zeros in front up to a width. -/
def padded (width n : Nat) : List Char :=
  let digits := Nat.toDigits 10 n
  List.replicate (width - digits.length) '0' ++ digits

/-- A year: four digits, and a sign when that is not enough or the year is before 0. -/
def renderYear (year : Int) : List Char :=
  if 0 ≤ year ∧ year ≤ 9999 then padded 4 year.toNat
  else (if year < 0 then '-' else '+') :: padded 4 year.natAbs

/-- The fraction of a second with as many digits as it needs: none, three, six or nine. -/
def renderFraction (nanosecond : Nat) : List Char :=
  if nanosecond = 0 then []
  else if nanosecond % 1000000 = 0 then '.' :: padded 3 (nanosecond / 1000000)
  else if nanosecond % 1000 = 0 then '.' :: padded 6 (nanosecond / 1000)
  else '.' :: padded 9 nanosecond

/-- The written form. -/
def render (time : Timestamp) : String :=
  let (year, month, date) := dateOfDay time.day
  let minutes := time.second / 60
  let leap := time.nanosecond / 1000000000
  String.ofList (renderYear year ++ '-' :: padded 2 month ++ '-' :: padded 2 date ++
    'T' :: padded 2 (minutes / 60) ++ ':' :: padded 2 (minutes % 60) ++
    ':' :: padded 2 (time.second % 60 + leap) ++
    renderFraction (time.nanosecond % 1000000000) ++ ['Z'])

/-- Leaves out the blanks at the start of a text. -/
def skipBlanks (text : List Char) : List Char := text.dropWhile isBlankChar

/-- Reads a number of at least one and at most `width` digits, behind any blanks. -/
def number? (width : Nat) (text : List Char) : Option (Nat × List Char) := do
  let text := skipBlanks text
  let digits := (text.take width).takeWhile isDigit
  return (← natural? digits, text.drop digits.length)

/-- Reads a character, behind any blanks. -/
def mark? (mark : Char) (text : List Char) : Option (List Char) :=
  match skipBlanks text with
  | c :: rest => if c = mark then some rest else none
  | [] => none

/-- Reads a year: up to four digits, or a sign and any number of digits. -/
def year? (text : List Char) : Option (Int × List Char) :=
  let signed (rest : List Char) (sign : Int) : Option (Int × List Char) := do
    let digits := rest.takeWhile isDigit
    return (sign * (← natural? digits), rest.drop digits.length)
  match skipBlanks text with
  | '-' :: rest => signed rest (-1)
  | '+' :: rest => signed rest 1
  | text => (number? 4 text).map fun (year, rest) => ((year : Int), rest)

/-- Reads the fraction of a second, if there is one. Digits beyond the ninth have no effect. -/
def fraction? (text : List Char) : Option (Nat × List Char) :=
  match text with
  | '.' :: rest => do
    let digits := rest.takeWhile isDigit
    let kept := digits.take 9
    let n ← natural? kept
    return (n * tenPow (9 - kept.length), rest.drop digits.length)
  | _ => some (0, text)

/-- The two digits at the start of a text. -/
def twoDigits? (text : List Char) : Option (Nat × List Char) :=
  match text with
  | a :: b :: rest => do
    return ((← digit? a) * 10 + (← digit? b), rest)
  | _ => none

/-- Reads an offset from UTC in seconds. -/
def offset? (text : List Char) : Option (Int × List Char) :=
  let clock (rest : List Char) (sign : Int) : Option (Int × List Char) := do
    let (hours, rest) ← twoDigits? rest
    let rest := rest.dropWhile fun c => c == ':' || isBlankChar c
    let (minutes, rest) ← twoDigits? rest
    if minutes < 60 ∧ hours < 24 then
      return (sign * ((hours * 3600 + minutes * 60 : Nat) : Int), rest)
    else none
  match text with
  | 'Z' :: rest | 'z' :: rest => some (0, rest)
  | '+' :: rest => clock rest 1
  | '-' :: rest | '−' :: rest => clock rest (-1)
  | _ =>
    if (text.take 3).map Char.toUpper = ['U', 'T', 'C'] then some (0, text.drop 3) else none

/-- The years that can be read. -/
def yearInRange (year : Int) : Bool := -262143 ≤ year && year ≤ 262142

/-- The point in time with the given parts, if there is one. A second of 60 is a leap second. -/
def ofParts? (year : Int) (month date hour minute second nanosecond : Nat) (offset : Int) :
    Option Timestamp :=
  if yearInRange year && 1 ≤ month && month ≤ 12 && 1 ≤ date &&
      date ≤ daysInMonth year month && hour < 24 && minute < 60 && second ≤ 60 then
    let leap := if second = 60 then 1 else 0
    let localTime : Int := ((hour * 60 + minute) * 60 + (second - leap) : Nat)
    let inUtc := localTime - offset
    some {
      day := dayOfDate year month date + inUtc.fdiv 86400
      second := (inUtc.fmod 86400).toNat
      nanosecond := nanosecond + leap * 1000000000 }
  else none

/-- Reads a point in time. -/
def parse? (text : String) : Option Timestamp := do
  let (year, rest) ← year? text.toList
  let (month, rest) ← number? 2 (← mark? '-' rest)
  let (date, rest) ← number? 2 (← mark? '-' rest)
  let rest ← match rest with
    | 't' :: rest | 'T' :: rest | ' ' :: rest => some rest
    | _ => none
  let (hour, rest) ← number? 2 rest
  let (minute, rest) ← number? 2 (← mark? ':' rest)
  let (second, rest) ← number? 2 (← mark? ':' rest)
  let (nanosecond, rest) ← fraction? rest
  let (offset, rest) ← offset? (skipBlanks rest)
  if (skipBlanks rest).isEmpty then
    ofParts? year month date hour minute second nanosecond offset
  else none

end Timestamp

end Payslip
