/-! The shortest decimal that reads back as a given binary floating-point number.

A positive double is `m * 2 ^ q`. The reals that round to it form an interval, which includes its
ends when `m` is even. Of the decimals in the interval those with the fewest digits are the
shortest, and of these the one nearest to the number is chosen.
-/

set_option autoImplicit false

namespace LogQuery.Decimal

structure Scientific where
  digits : Nat
  exponent : Int
  deriving DecidableEq, Repr

/-- The magnitude of a double, as `mantissa * 2 ^ exponent`, and whether the doubles below it lie
twice as close as those above. -/
structure Magnitude where
  mantissa : Nat
  exponent : Int
  closeBelow : Bool
  deriving DecidableEq, Repr

def fractionLimit : Nat := 4503599627370496

def Magnitude.ofBits (bits : UInt64) : Magnitude :=
  let fraction : Nat := bits.toNat % fractionLimit
  let biased : Nat := bits.toNat / fractionLimit % 2048
  if biased == 0 then ⟨fraction, -1074, false⟩
  else ⟨fractionLimit + fraction, (biased : Int) - 1075, fraction == 0 && biased > 1⟩

def scaleTwo (a : Nat) (exponent : Int) : Nat × Nat :=
  if 0 ≤ exponent then (a * Nat.pow 2 exponent.toNat, 1) else (a, Nat.pow 2 (-exponent).toNat)

/-- Quarters of the unit of the last place: the number, and the ends of its interval. -/
def Magnitude.quarters (x : Magnitude) : Nat × Nat × Nat :=
  let value := 4 * x.mantissa
  (value, value - (if x.closeBelow then 1 else 2), value + 2)

def floorLog10 (numerator denominator : Nat) : Int :=
  let scaled := numerator * Nat.pow 10 400 / denominator
  ((toString scaled).length : Int) - 401

def nearestInInterval? (x : Magnitude) (exponent : Int) : Option Nat :=
  let (value, low, high) := x.quarters
  -- both sides of every comparison are multiplied by the denominators of the two units
  let (unit, unitDenominator) :=
    if 0 ≤ exponent then (Nat.pow 10 exponent.toNat, 1) else (1, Nat.pow 10 (-exponent).toNat)
  let scale (quarters : Nat) : Nat := (scaleTwo quarters (x.exponent - 2)).1 * unitDenominator
  let grid : Nat := unit * (scaleTwo 1 (x.exponent - 2)).2
  let within (n : Nat) : Bool :=
    if x.mantissa % 2 == 0 then scale low ≤ n * grid && n * grid ≤ scale high
    else scale low < n * grid && n * grid < scale high
  let below := scale value / grid
  let distanceBelow := scale value - below * grid
  let distanceAbove := (below + 1) * grid - scale value
  match within below && below != 0, within (below + 1) with
  | true, true =>
    if distanceBelow < distanceAbove || (distanceBelow == distanceAbove && below % 2 == 0) then
      some below
    else some (below + 1)
  | true, false => some below
  | false, true => some (below + 1)
  | false, false => none

def Scientific.strip (d : Scientific) : Scientific := go d.digits d d.digits
where
  go : (fuel : Nat) → Scientific → Nat → Scientific
    | 0, d, _ => d
    | fuel + 1, d, n => if n != 0 && n % 10 == 0 then go fuel ⟨n / 10, d.exponent + 1⟩ (n / 10) else d

def shortest (x : Magnitude) : Scientific :=
  let (value, _, _) := x.quarters
  let (numerator, denominator) := scaleTwo value (x.exponent - 2)
  let top := floorLog10 numerator denominator
  let candidates := (List.range 18).map fun (places : Nat) => top - (places : Int)
  match candidates.findSome? fun exponent =>
      (nearestInInterval? x exponent).map fun digits => (⟨digits, exponent⟩ : Scientific) with
  | some d => d.strip
  | none => ⟨0, 0⟩

end LogQuery.Decimal
