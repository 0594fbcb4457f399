/-
  RoutingSessions.Decimal.Binary64 — the nearest double-precision number.

  A finite magnitude is an integer of at most 53 bits times a power of two.  The
  nearest one to a quotient is found in exact arithmetic; a tie goes to the even
  integer, and what lies past the largest magnitude is infinite.
-/

namespace RoutingSessions.Decimal

/-- The magnitude of a double-precision number. -/
inductive Binary64 where
  /-- The number `mantissa · 2 ^ exponent`. -/
  | finite (mantissa : Nat) (exponent : Int)
  | infinite
deriving DecidableEq

namespace Binary64

/-- Zero. -/
def zero : Binary64 := .finite 0 (-1074)

/-- The quotient rounded to an integer; a half goes to the even neighbour. -/
def roundQuotient (num den : Nat) : Nat :=
  let q := num / den
  let r := num % den
  if 2 * r < den then q
  else if den < 2 * r then q + 1
  else if q % 2 = 0 then q else q + 1

/-- The quotient of `num / den` and `2 ^ exponent`, as a quotient of integers. -/
def unscale (num den : Nat) (exponent : Int) : Nat × Nat :=
  if 0 ≤ exponent then (num, den * Nat.pow 2 exponent.toNat)
  else (num * Nat.pow 2 (-exponent).toNat, den)

/-- The exponent for which the quotient takes 53 bits, or the least there is. -/
def exponentFor (num den : Nat) : Int :=
  let guess : Int := (num.log2 : Int) - (den.log2 : Int) - 52
  let fits := let (n, d) := unscale num den guess; n / d ≥ Nat.pow 2 52
  max (-1074) (if fits then guess else guess - 1)

/-- The magnitude nearest to `num / den`. -/
def ofQuotient (num den : Nat) : Binary64 :=
  if num = 0 then zero
  else
    let exponent := exponentFor num den
    let (n, d) := unscale num den exponent
    let m := roundQuotient n d
    let (m, exponent) := if m = Nat.pow 2 53 then (Nat.pow 2 52, exponent + 1) else (m, exponent)
    if exponent > 971 then .infinite else .finite m exponent

/-- The magnitude nearest to `digits · 10 ^ power`. -/
def ofScientific (digits : Nat) (power : Int) : Binary64 :=
  let length : Int := (toString digits).length
  if digits = 0 then zero
  else if power + length > 400 then .infinite
  else if power + length < -400 then zero
  else if 0 ≤ power then ofQuotient (digits * Nat.pow 10 power.toNat) 1
  else ofQuotient digits (Nat.pow 10 (-power).toNat)

/-- A finite magnitude as a quotient of integers. -/
def quotient (mantissa : Nat) (exponent : Int) : Nat × Nat :=
  if 0 ≤ exponent then (mantissa * Nat.pow 2 exponent.toNat, 1)
  else (mantissa, Nat.pow 2 (-exponent).toNat)

/-- The rounded product. -/
def mul : Binary64 → Binary64 → Binary64
  | .finite m e, .finite n f =>
    let (a, b) := quotient m e
    let (c, d) := quotient n f
    ofQuotient (a * c) (b * d)
  | _, _ => .infinite

/-- The rounded quotient by a magnitude that is not zero. -/
def div : Binary64 → Binary64 → Binary64
  | .finite m e, .finite n f =>
    let (a, b) := quotient m e
    let (c, d) := quotient n f
    ofQuotient (a * d) (b * c)
  | .infinite, _ => .infinite
  | _, .infinite => zero

/-- The magnitude is zero. -/
def isZero : Binary64 → Bool
  | .finite m _ => m = 0
  | .infinite => false

end Binary64

end RoutingSessions.Decimal
