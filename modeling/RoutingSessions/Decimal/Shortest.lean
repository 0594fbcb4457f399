/-
  RoutingSessions.Decimal.Shortest — the fewest digits that read back, and how they
  are laid out.

  A magnitude is surrounded by an interval of reals that round to it.  The digits
  written are those of the coarsest decimal grid that has a point in the interval,
  and of two such points the nearer.

  Layouts differ in when they leave positional notation, and in which of two equally
  near points they take.  In positional notation every number has a point, so that
  no integer looks like one.
-/
import RoutingSessions.Decimal.Binary64

namespace RoutingSessions.Decimal

/-! ## Digits -/

/-- Significant digits: the number `0.d₁d₂… · 10 ^ point`. -/
structure Digits where
  digits : List Char
  point : Int
deriving DecidableEq

/-- The number of decimal digits of `n`. -/
def digitCount (n : Nat) : Nat := (Nat.toDigits 10 n).length

/-- The power of ten just above the quotient: `10 ^ (k - 1) ≤ num / den < 10 ^ k`. -/
def decimalPoint (num den : Nat) : Int :=
  if den ≤ num then digitCount (num / den) else 1 - (digitCount ((den - 1) / num) : Int)

/-- The quotient `num / den` in units of `10 ^ power`. -/
def inUnits (num den : Nat) (power : Int) : Nat × Nat :=
  if 0 ≤ power then (num, den * Nat.pow 10 power.toNat) else (num * Nat.pow 10 (-power).toNat, den)

/-- The interval of reals that round to a magnitude, in quarters of its last binary place. -/
structure Interval where
  low : Nat
  high : Nat
  /-- Both ends round to the magnitude too. -/
  closed : Bool

/-- The interval around `mantissa · 2 ^ exponent`. -/
def Interval.around (mantissa : Nat) (exponent : Int) : Interval where
  low := 4 * mantissa - (if mantissa = Nat.pow 2 52 ∧ exponent > -1074 then 1 else 2)
  high := 4 * mantissa + 2
  closed := mantissa % 2 = 0

/-- Which of two equally near grid points is taken. -/
inductive Ties where
  | even
  | greater
deriving DecidableEq

/-- The nearer of the value's two neighbours on a decimal grid, if one is in the interval.
All quotients have the denominator `den` and count units of the grid. -/
def gridPoint? (ties : Ties) (low value high den : Nat) (closed : Bool) : Option Nat :=
  let below := value / den
  let above := below + 1
  let belowIn := if closed then low ≤ below * den else low < below * den
  let aboveIn := if closed then above * den ≤ high else above * den < high
  match decide belowIn, decide aboveIn with
  | true, true =>
    let toBelow := value - below * den
    let toAbove := above * den - value
    if toBelow < toAbove then some below
    else if toAbove < toBelow then some above
    else if ties = .even && below % 2 = 0 then some below else some above
  | true, false => some below
  | false, true => some above
  | false, false => none

/-- The first grid, from `count` digits up, with a point in the interval. -/
def searchGrid (ties : Ties) (value low high : Nat × Nat) (closed : Bool) (point : Int) :
    Nat → Nat → Nat × Int
  | 0, count => (0, point - count)
  | fuel + 1, count =>
    let power := point - count
    let (v, d) := inUnits value.1 value.2 power
    let (l, _) := inUnits low.1 low.2 power
    let (h, _) := inUnits high.1 high.2 power
    match gridPoint? ties l v h d closed with
    | some n => (n, power)
    | none => searchGrid ties value low high closed point fuel (count + 1)

/-- The digits of a positive finite magnitude. -/
def shortest (ties : Ties) (mantissa : Nat) (exponent : Int) : Digits :=
  let around := Interval.around mantissa exponent
  let quarter (n : Nat) : Nat × Nat := Binary64.quotient n (exponent - 2)
  let value := quarter (4 * mantissa)
  let point := decimalPoint value.1 value.2
  let (n, power) := searchGrid ties value (quarter around.low) (quarter around.high)
    around.closed point 17 1
  let digits := Nat.toDigits 10 n
  let kept := (digits.reverse.dropWhile (· = '0')).reverse
  ⟨kept, power + digits.length⟩

/-! ## Layouts -/

/-- The digits in positional notation, with a point and at least one digit after it. -/
def Digits.positional (d : Digits) : List Char :=
  let zeros (n : Int) : List Char := List.replicate n.toNat '0'
  if d.point ≤ 0 then '0' :: '.' :: zeros (-d.point) ++ d.digits
  else
    let whole := d.digits.take d.point.toNat
    let rest := d.digits.drop d.point.toNat
    whole ++ zeros (d.point - whole.length) ++ '.' :: (if rest.isEmpty then ['0'] else rest)

/-- The digits in exponent notation; the exponent has a sign. -/
def Digits.exponential (d : Digits) : List Char :=
  let power := d.point - 1
  let whole := d.digits.take 1
  let rest := d.digits.drop 1
  whole ++ (if rest.isEmpty then [] else '.' :: rest)
    ++ 'e' :: (if power < 0 then '-' else '+') :: Nat.toDigits 10 power.natAbs

/-- Where a layout leaves positional notation. -/
inductive Layout where
  /-- Nowhere. -/
  | positional
  /-- Below 10⁻⁵ and from 10¹⁶ on. -/
  | mixed
deriving DecidableEq

/-- Which of two equally near decimals a layout takes. -/
def Layout.ties : Layout → Ties
  | .positional => .greater
  | .mixed => .even

/-- A signed magnitude, written with the fewest digits. -/
def Binary64.write (layout : Layout) (negative : Bool) (b : Binary64) : String :=
  let sign := if negative then ['-'] else []
  match b with
  | .infinite => String.ofList (sign ++ "inf".toList)
  | .finite m e =>
    if m = 0 then String.ofList (sign ++ "0.0".toList)
    else
      let d := shortest layout.ties m e
      let plain := layout = .positional || (-5 < d.point && d.point ≤ 16)
      String.ofList (sign ++ if plain then d.positional else d.exponential)

end RoutingSessions.Decimal
