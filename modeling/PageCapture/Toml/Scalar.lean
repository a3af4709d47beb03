import PageCapture.Datum
import PageCapture.Text

/-!
# Numbers, dates and truth values of TOML

A number is an integer of 64 signed bits, in base ten with a sign or, without one, in base sixteen,
eight or two; or a decimal fraction. Single underscores may stand between digits. A positive
fraction too large for a double is refused. A date or a time names a day of the calendar and a time
of the day.

No field of the program takes a fraction, so it becomes `Datum.other`. A date becomes a record with
a single member that no record of the program has: it may stand for a section and gives it nothing.
-/

set_option autoImplicit false
set_option relaxedAutoImplicit false

namespace PageCapture.Toml

/-- The digits in front, underscores left out: a digit first, and one behind every underscore. -/
def digits? (isDigit : Char → Bool) : List Char → Option (List Char × List Char)
  | c :: rest => if isDigit c then more [c] rest else none
  | [] => none
where
  /-- The digits behind those in `read`, the last first. -/
  more (read : List Char) : List Char → Option (List Char × List Char)
    | '_' :: c :: rest => if isDigit c then more (c :: read) rest else none
    | c :: rest =>
      if isDigit c then more (c :: read) rest
      else if c = '_' then none
      else some (read.reverse, c :: rest)
    | [] => some (read.reverse, [])

/-- Whether a number is one of 64 signed bits. -/
def isInt64 (n : Int) : Bool := -9223372036854775808 ≤ n && n < 9223372036854775808

/-- An integer of 64 signed bits as a datum. -/
def integer? (n : Int) : Option Datum := if isInt64 n then some (.integer n) else none

/-- Reads a whole number in a base from behind its mark. -/
def based? (base : Nat) (input : List Char) : Option (Datum × List Char) := do
  let isDigit c := match Hexadecimal.digitValue? c with
    | some n => decide (n < base)
    | none => false
  let (digits, rest) ← digits? isDigit input
  let value := digits.foldl (fun n c ↦ base * n + (Hexadecimal.digitValue? c).getD 0) 0
  return (← integer? value, rest)

/-- The digits of the whole part of a number: a zero alone, or digits of which the first is not a
zero. -/
def wholePart? : List Char → Option (List Char × List Char)
  | '0' :: rest => some (['0'], rest)
  | input => digits? Char.isDigit input

/-- The digits of a fraction part, which may be missing. -/
def fractionPart? : List Char → Option (List Char × List Char)
  | '.' :: rest => digits? Char.isDigit rest
  | rest => some ([], rest)

/-- The value of an exponent part, which may be missing. -/
def exponentPart? : List Char → Option (Int × List Char)
  | c :: rest =>
    if c = 'e' ∨ c = 'E' then
      let (negative, unsigned) := match rest with
        | '-' :: after => (true, after)
        | '+' :: after => (false, after)
        | after => (false, after)
      (digits? Char.isDigit unsigned).map fun (digits, after) ↦
        let n : Int := Decimal.value digits
        (if negative then -n else n, after)
    else some (0, c :: rest)
  | [] => some (0, [])

/-- Whether `mantissa * 10 ^ exponent` is rounded to infinity as a double: it is at least half-way
from the greatest double to `2 ^ 1024`. -/
def exceedsDouble (mantissa : Nat) (exponent : Int) : Bool :=
  let digits := (Decimal.digits mantissa).length
  if mantissa = 0 then false
  else if digits + exponent < 300 then false
  else if 320 < digits + exponent then true
  else
    let bound := (Nat.pow 2 54 - 1) * Nat.pow 2 970
    if 0 ≤ exponent then bound ≤ mantissa * Nat.pow 10 exponent.toNat
    else bound * Nat.pow 10 (-exponent).toNat ≤ mantissa

/-- Reads a number in base ten from behind its sign. -/
def decimal? (negative : Bool) (input : List Char) : Option (Datum × List Char) := do
  let (whole, behindWhole) ← wholePart? input
  let (fraction, behindFraction) ← fractionPart? behindWhole
  let (exponent, rest) ← exponentPart? behindFraction
  if rest.length = behindWhole.length then
    let n : Int := Decimal.value whole
    return (← integer? (if negative then -n else n), rest)
  else if !negative && exceedsDouble (Decimal.value (whole ++ fraction))
      (exponent - fraction.length) then none
  else return (.other (String.ofList (input.take (input.length - rest.length))), rest)

/-- The value of two digits below a limit. -/
def twoDigits? (limit : Nat) : List Char → Option (Nat × List Char)
  | a :: b :: rest =>
    if a.isDigit && b.isDigit then
      let n := Decimal.value [a, b]
      if n < limit then some (n, rest) else none
    else none
  | _ => none

/-- What is left behind a character. -/
def after? (c : Char) : List Char → Option (List Char)
  | first :: rest => if first = c then some rest else none
  | [] => none

/-- Whether a year has a 29th of February. -/
def isLeapYear (year : Nat) : Bool := year % 4 = 0 && (year % 100 ≠ 0 || year % 400 = 0)

/-- The number of days in a month. -/
def monthLength (year month : Nat) : Nat :=
  if month = 2 then if isLeapYear year then 29 else 28
  else if month = 4 ∨ month = 6 ∨ month = 9 ∨ month = 11 then 30
  else 31

/-- What is left behind the month and the day of a year, if there is such a day. -/
def monthAndDay? (year : Nat) (input : List Char) : Option (List Char) := do
  let (month, behindMonth) ← twoDigits? 13 input
  let (day, rest) ← twoDigits? 32 (← after? '-' behindMonth)
  if 1 ≤ month ∧ 1 ≤ day ∧ day ≤ monthLength year month then some rest else none

/-- What is left behind the minutes and seconds of a time, from behind its first colon. A leap
second is allowed for. -/
def minutesAndSeconds? (input : List Char) : Option (List Char) := do
  let (_, behindMinute) ← twoDigits? 60 input
  let (_, rest) ← twoDigits? 61 (← after? ':' behindMinute)
  match rest with
  | '.' :: c :: after => if c.isDigit then some (after.dropWhile Char.isDigit) else some rest
  | rest => some rest

/-- Whether a time stands in front: an hour and a colon. -/
def startsTime : List Char → Bool
  | a :: b :: ':' :: _ => a.isDigit && b.isDigit
  | _ => false

/-- What is left behind a time. -/
def time? (input : List Char) : Option (List Char) := do
  let (_, behindHour) ← twoDigits? 24 input
  minutesAndSeconds? (← after? ':' behindHour)

/-- What is left behind the offset of a time, which may be missing. -/
def offset? : List Char → Option (List Char)
  | c :: rest =>
    if c = 'Z' ∨ c = 'z' then some rest
    else if c = '+' ∨ c = '-' then do
      let (_, behindHour) ← twoDigits? 24 rest
      let (_, after) ← twoDigits? 60 (← after? ':' behindHour)
      some after
    else some (c :: rest)
  | [] => some []

/-- What is left behind the time that may follow a date. -/
def timeAfterDate? : List Char → Option (List Char)
  | c :: rest =>
    if (c = 'T' || c = 't' || c = ' ') && startsTime rest then (time? rest).bind offset?
    else some (c :: rest)
  | [] => some []

/-- A date or a time as it was written. -/
def date (written : List Char) : Datum := .record [("$date", .text (String.ofList written))]

/-- What is left behind a date or a time, where one stands in front. -/
def dateOrTime? : List Char → Option (Option (List Char))
  | a :: b :: c :: d :: '-' :: rest =>
    if [a, b, c, d].all Char.isDigit then
      some ((monthAndDay? (Decimal.value [a, b, c, d]) rest).bind timeAfterDate?)
    else none
  | input => if startsTime input then some (time? input) else none

/-- Reads a number without regard to a sign in front of it, or `inf` or `nan`. -/
def unsigned? (negative : Bool) : List Char → Option (Datum × List Char)
  | 'i' :: 'n' :: 'f' :: rest => some (.other "inf", rest)
  | 'n' :: 'a' :: 'n' :: rest => some (.other "nan", rest)
  | input => decimal? negative input

/-- Reads a number, a date, a time or a truth value. -/
def scalar? (input : List Char) : Option (Datum × List Char) :=
  match dateOrTime? input with
  | some rest? =>
    rest?.map fun rest ↦ (date (input.take (input.length - rest.length)), rest)
  | none =>
    match input with
    | 't' :: 'r' :: 'u' :: 'e' :: rest => some (.boolean true, rest)
    | 'f' :: 'a' :: 'l' :: 's' :: 'e' :: rest => some (.boolean false, rest)
    | '0' :: 'x' :: rest => based? 16 rest
    | '0' :: 'o' :: rest => based? 8 rest
    | '0' :: 'b' :: rest => based? 2 rest
    | '-' :: rest => unsigned? true rest
    | '+' :: rest => unsigned? false rest
    | rest => unsigned? false rest

end PageCapture.Toml
