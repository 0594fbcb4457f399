/-
  RoutingSessions.Json.Number — the numbers of JSON.

  A number without point and exponent is an integer if it is in the range of 64
  bits: of unsigned ones if it has no sign, of signed ones if it has one, negative
  zero excepted.  Every other number is a floating-point one.  Its digits are taken
  in while they fit 64 bits; the integer they give and a power of ten are each
  rounded before they are multiplied or divided, and so is the result.

  Reading a number that no floating-point value reaches is an error; passing over it
  is not.
-/
import RoutingSessions.Decimal.Shortest
import RoutingSessions.Document.Node

namespace RoutingSessions.Json

open RoutingSessions.Document
open RoutingSessions.Decimal

/-! ## Digits -/

/-- The value of a decimal digit. -/
def digit (c : Char) : Nat := c.toNat - 48

/-- The greatest unsigned number of 64 bits. -/
def maxUnsigned : Nat := Nat.pow 2 64 - 1

/-- The number that the digits write. -/
def decimalValue (ds : List Char) : Nat := ds.foldl (fun n c => 10 * n + digit c) 0

/-- Takes digits into `n` while the number fits 64 bits; gives the digits that are left. -/
def takeIn (n : Nat) : List Char → Nat × List Char
  | [] => (n, [])
  | c :: cs => if 10 * n + digit c ≤ maxUnsigned then takeIn (10 * n + digit c) cs else (n, c :: cs)

/-- The text cut behind the digits at its beginning. -/
def spanDigits (s : List Char) : List Char × List Char :=
  (s.takeWhile Char.isDigit, s.dropWhile Char.isDigit)

/-! ## Magnitudes -/

/-- Divides by 10³⁰⁸ until the power of ten is one of a magnitude. -/
def scaleDown : Nat → Binary64 → Int → Option (Binary64 × Int)
  | 0, m, power => some (m, power)
  | fuel + 1, m, power =>
    if -308 ≤ power then some (m, power)
    else if m.isZero then some (m, 0)
    else scaleDown fuel (m.div (.ofScientific 1 308)) (power + 308)

/-- The magnitude `significand · 10 ^ power`, each factor rounded, unless it is infinite. -/
def scale (significand : Nat) (power : Int) : Option Binary64 :=
  let m := Binary64.ofQuotient significand 1
  if power > 308 then if m.isZero then some m else none
  else
    -- The quotient is zero after four divisions at most.
    match scaleDown 4 m power with
    | none => none
    | some (m, power) =>
      if m.isZero then some m
      else if 0 ≤ power then
        match m.mul (.ofScientific 1 power) with
        | .infinite => none
        | m => some m
      else some (m.div (.ofScientific 1 (-power)))

/-- The exponents that are counted; a greater one gives zero or no number at all. -/
def maxExponent : Nat := Nat.pow 2 31 - 1

/-- A floating-point number, as diagnostics show it. -/
def floatShown (negative : Bool) (m : Binary64) : Plain := .float (m.write .mixed negative)

/-- The floating-point number of a significand, the power of ten it counts, and the exponent
that is written behind it: whether that is negative, and its digits. -/
def readScaled (negative : Bool) (significand : Nat) (power : Int) (exponent : Bool × List Char) :
    Except Fault Plain :=
  let size := decimalValue exponent.2
  if size > maxExponent then
    if significand ≠ 0 ∧ ¬ exponent.1 then .error .malformed
    else .ok (floatShown negative .zero)
  else
    match scale significand (power + if exponent.1 then -(size : Int) else (size : Int)) with
    | none => .error .malformed
    | some m => .ok (floatShown negative m)

/-! ## Reading -/

/-- An exponent, if there is one: whether it is negative, its digits, and the text after it. -/
def readExponent (s : List Char) : Except Fault (Option (Bool × List Char) × List Char) :=
  match s with
  | [] => .ok (none, [])
  | c :: rest =>
    if c = 'e' || c = 'E' then
      let (negative, rest) : Bool × List Char :=
        match rest with
        | '+' :: t => (false, t)
        | '-' :: t => (true, t)
        | t => (false, t)
      match spanDigits rest with
      | ([], []) => .error .cutShort
      | ([], _) => .error .malformed
      | (ds, t) => .ok (some (negative, ds), t)
    else .ok (none, c :: rest)

/-- The digits behind a point, if there is one, and the text after them. -/
def readFraction (s : List Char) : Except Fault (Option (List Char) × List Char) :=
  match s with
  | '.' :: rest =>
    match spanDigits rest with
    | ([], []) => .error .cutShort
    | ([], _) => .error .malformed
    | (ds, t) => .ok (some ds, t)
  | s => .ok (none, s)

/-- The digits before a point, and the text after them; zero is followed by no digit. -/
def readWhole (s : List Char) : Except Fault (List Char × List Char) :=
  match spanDigits s with
  | ([], []) => .error .cutShort
  | ([], _) => .error .malformed
  | ('0' :: _ :: _, _) => .error .malformed
  | (ds, t) => .ok (ds, t)

/-- The value of a number from its parts. -/
def assemble (negative : Bool) (whole : List Char) (fraction : Option (List Char))
    (exponent : Option (Bool × List Char)) : Except Fault Plain :=
  let (significand, left) := takeIn 0 whole
  match left, fraction, exponent with
  | [], none, none =>
    if !negative then .ok (.integer significand)
    else if significand = 0 ∨ significand > Nat.pow 2 63 then
      .ok (floatShown true (.ofQuotient significand 1))
    else .ok (.integer (-(significand : Int)))
  | left, fraction, exponent =>
    let digits := fraction.getD []
    let (significand, unread) := takeIn significand digits
    let power : Int := (left.length : Int) - ((digits.length - unread.length : Nat) : Int)
    readScaled negative significand power (exponent.getD (false, []))

/-- The number behind an optional sign, and the text after it. -/
def readNumber (negative : Bool) (s : List Char) : Except Fault (Plain × List Char) := do
  let (whole, s) ← readWhole s
  let (fraction, s) ← readFraction s
  let (exponent, s) ← readExponent s
  let value ← assemble negative whole fraction exponent
  return (value, s)

/-- The text after a number that is passed over; one that breaks off is malformed. -/
def skipNumber (s : List Char) : Except Fault (List Char) :=
  let parts : Except Fault (List Char) := do
    let (_, s) ← readWhole s
    let (_, s) ← readFraction s
    let (_, s) ← readExponent s
    return s
  parts.mapError fun _ => .malformed

end RoutingSessions.Json
