/-
  RoutingSessions.Toml.Scalar — the numbers, dates and truth values of TOML.

  Integers are decimal with a sign, or hexadecimal, octal or binary without one, and
  fit 64 bits.  Underscores may stand between digits.  Dates are of the Gregorian
  calendar, and a second may be a leap second.
-/
import RoutingSessions.Decimal.Shortest
import RoutingSessions.Document.Node
import RoutingSessions.Handle
import RoutingSessions.Text.Lines

namespace RoutingSessions.Toml

open RoutingSessions.Document
open RoutingSessions.Decimal

/-! ## Digits -/

/-- The digits without the underscores between them; `after` says that a digit came before. -/
def plainDigits (isDigit : Char → Bool) (after : Bool) : List Char → Option (List Char)
  | [] => if after then some [] else none
  | c :: cs =>
    if isDigit c then (plainDigits isDigit true cs).map (c :: ·)
    else if c = '_' && after then
      match cs with
      | d :: _ => if isDigit d then plainDigits isDigit false cs else none
      | [] => none
    else none

/-- A digit of the number system. -/
def isDigitOf (base : Nat) (c : Char) : Bool :=
  match Octets.digitValue? c with
  | some d => d < base
  | none => false

/-- The number that the digits write. -/
def numberOf (base : Nat) (ds : List Char) : Nat :=
  ds.foldl (fun n c => base * n + (Octets.digitValue? c).getD 0) 0

/-- One or more decimal digits. -/
def decimalDigits? (s : List Char) : Option (List Char) := plainDigits (isDigitOf 10) false s

/-- Decimal digits, zero standing alone. -/
def wholeDigits? (s : List Char) : Option (List Char) :=
  match decimalDigits? s with
  | some ('0' :: _ :: _) => none
  | ds => ds

/-- The text behind an optional sign, and whether the sign is a minus. -/
def splitSign : List Char → Bool × List Char
  | '+' :: s => (false, s)
  | '-' :: s => (true, s)
  | s => (false, s)

/-! ## Integers -/

/-- The greatest integer. -/
def maxInteger : Nat := Nat.pow 2 63 - 1

/-- A number in the digits of some system. -/
def basedInteger? (base : Nat) (s : List Char) : Option Int :=
  match plainDigits (isDigitOf base) false s with
  | some ds => if numberOf base ds ≤ maxInteger then some (numberOf base ds) else none
  | none => none

/-- An integer. -/
def integer? : List Char → Option Int
  | '0' :: 'x' :: s => basedInteger? 16 s
  | '0' :: 'o' :: s => basedInteger? 8 s
  | '0' :: 'b' :: s => basedInteger? 2 s
  | s =>
    let (negative, s) := splitSign s
    match wholeDigits? s with
    | none => none
    | some ds =>
      let n := numberOf 10 ds
      if negative then if n ≤ maxInteger + 1 then some (-(n : Int)) else none
      else if n ≤ maxInteger then some n else none

/-! ## Floating-point numbers -/

/-- A text cut at the first of the characters. -/
def cutAt (p : Char → Bool) (s : List Char) : List Char × Option (List Char) :=
  match s.dropWhile (fun c => !p c) with
  | [] => (s, none)
  | _ :: rest => (s.takeWhile (fun c => !p c), some rest)

/-- A floating-point number as diagnostics show it. -/
def floatShown (negative : Bool) (b : Binary64) : String := b.write .positional negative

/-- The exponent that is written behind its letter. -/
def exponent? (s : List Char) : Option Int :=
  let (negative, s) := splitSign s
  match decimalDigits? s with
  | none => none
  | some ds => some (if negative then -(numberOf 10 ds : Int) else numberOf 10 ds)

/-- A floating-point number with a point or an exponent.  One too large is refused, unless it
is negative. -/
def decimalFloat? (s : List Char) : Option String :=
  let (negative, s) := splitSign s
  let (mantissa, power) := cutAt (fun c => c = 'e' || c = 'E') s
  let (whole, fraction) := cutAt (· = '.') mantissa
  if power.isNone && fraction.isNone then none
  else
    match wholeDigits? whole, (fraction.map decimalDigits?).getD (some []),
      (power.map exponent?).getD (some 0) with
    | some ds, some fs, some p =>
      match Binary64.ofScientific (numberOf 10 (ds ++ fs)) (p - fs.length) with
      | .infinite => if negative then some "-inf" else none
      | b => some (floatShown negative b)
    | _, _, _ => none

/-- A floating-point number. -/
def float? (s : List Char) : Option String :=
  let (negative, name) := splitSign s
  if name = "inf".toList then some (if negative then "-inf" else "inf")
  else if name = "nan".toList then some "NaN"
  else decimalFloat? s

/-! ## Dates and times -/

/-- The number of exactly `count` digits. -/
def fixedNumber? (count : Nat) (s : List Char) : Option Nat :=
  if s.length = count && s.all (isDigitOf 10) then some (numberOf 10 s) else none

/-- A leap year. -/
def isLeapYear (y : Nat) : Bool := y % 4 = 0 && (y % 100 ≠ 0 || y % 400 = 0)

/-- The number of days of a month. -/
def daysIn (year month : Nat) : Nat :=
  if month = 2 then if isLeapYear year then 29 else 28
  else if month = 4 || month = 6 || month = 9 || month = 11 then 30
  else 31

/-- A date. -/
def isDate (s : List Char) : Bool :=
  match pieces '-' s with
  | [y, m, d] =>
    match fixedNumber? 4 y, fixedNumber? 2 m, fixedNumber? 2 d with
    | some y, some m, some d => 1 ≤ m && m ≤ 12 && 1 ≤ d && d ≤ daysIn y m
    | _, _, _ => false
  | _ => false

/-- Hours and minutes. -/
def isHourMinute (h m : List Char) : Bool :=
  match fixedNumber? 2 h, fixedNumber? 2 m with
  | some h, some m => h ≤ 23 && m ≤ 59
  | _, _ => false

/-- A second, with or without a fraction. -/
def isSecond (s : List Char) : Bool :=
  let (whole, fraction) := cutAt (· = '.') s
  let wholeOk :=
    match fixedNumber? 2 whole with
    | some n => n ≤ 60
    | none => false
  let fractionOk :=
    match fraction with
    | none => true
    | some f => !f.isEmpty && f.all (isDigitOf 10)
  wholeOk && fractionOk

/-- A time of day. -/
def isTime (s : List Char) : Bool :=
  match pieces ':' s with
  | [h, m, sec] => isHourMinute h m && isSecond sec
  | _ => false

/-- A time of day with or without an offset from universal time. -/
def isTimeWithOffset (s : List Char) : Bool :=
  match s.reverse with
  | 'Z' :: r => isTime r.reverse
  | 'z' :: r => isTime r.reverse
  | _ =>
    let (time, offset) := cutAt (fun c => c = '+' || c = '-') s
    match offset with
    | none => isTime time
    | some offset =>
      match pieces ':' offset with
      | [h, m] => isTime time && isHourMinute h m
      | _ => false

/-- A date, a time of day, or both with a letter between them. -/
def isInstant (s : List Char) : Bool :=
  isDate s || isTime s ||
    match cutAt (fun c => c = 'T' || c = 't') s with
    | (date, some time) => isDate date && isTimeWithOffset time
    | _ => false

/-! ## Words -/

/-- A character of a value that is not a string, list or table. -/
def isScalarChar (c : Char) : Bool :=
  c.isAlphanum || c = '_' || c = '+' || c = '-' || c = '.' || c = ':'

/-- The plain value that a word writes. -/
def plain? (word : List Char) : Option Plain :=
  if word = "true".toList then some (.boolean true)
  else if word = "false".toList then some (.boolean false)
  else if isInstant word then some .instant
  else
    match integer? word with
    | some i => some (.integer i)
    | none => (float? word).map .float

/-- The plain value at the beginning of the text, and the text after it.  A time of day may
follow its date after a space. -/
def readPlain (s : List Char) : Option (Plain × List Char) :=
  let word := s.takeWhile isScalarChar
  let rest := s.dropWhile isScalarChar
  match rest with
  | ' ' :: tail =>
    let time := tail.takeWhile isScalarChar
    if isDate word && isTimeWithOffset time then
      some (.instant, tail.dropWhile isScalarChar)
    else (plain? word).map (·, rest)
  | _ => (plain? word).map (·, rest)

end RoutingSessions.Toml
