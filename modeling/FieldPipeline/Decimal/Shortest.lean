import FieldPipeline.Decimal.Double

namespace FieldPipeline.Double

/-- The decimals that round to a positive finite float. Both ends and the value are numerators over
`den`; the ends belong to it when the significand is even. -/
structure Reach where
  low : Nat
  value : Nat
  high : Nat
  den : Nat
  closed : Bool
deriving DecidableEq, Repr

/-- A neighbour is half a unit away, or a quarter below a power of two. -/
def reach (d : Double) : Reach :=
  let m := d.significand
  let e := d.exponent - 2
  let unit := pow2 e.toNat
  let below := if m = pow2 52 ∧ 1 < d.exponentField then 1 else 2
  { low := (4 * m - below) * unit
    value := 4 * m * unit
    high := (4 * m + 2) * unit
    den := pow2 (-e).toNat
    closed := m % 2 = 0 }

namespace Reach

/-- Whether `n * 10 ^ k` rounds to the float. -/
def holds (r : Reach) (n : Nat) (k : Int) : Bool :=
  let x := n * pow10 k.toNat * r.den
  let ten := pow10 (-k).toNat
  if r.closed then r.low * ten ≤ x && x ≤ r.high * ten else r.low * ten < x && x < r.high * ten

/-- The float's value in units of `10 ^ k`, rounded down. -/
def floor (r : Reach) (k : Int) : Nat :=
  r.value * pow10 (-k).toNat / (r.den * pow10 k.toNat)

/-- The distance of `n * 10 ^ k` from the value, over a denominator that depends on `k` only. -/
def distance (r : Reach) (n : Nat) (k : Int) : Nat :=
  let x := n * pow10 k.toNat * r.den
  let v := r.value * pow10 (-k).toNat
  (x - v) + (v - x)

/-- Whether `n + 1` is nearer than `n`; of two that are equally near, the even one counts. -/
def favoursNext (r : Reach) (n : Nat) (k : Int) : Bool :=
  let here := r.distance n k
  let next := r.distance (n + 1) k
  next < here || next == here && n % 2 == 1

/-- The number of decimal digits before the point; zero or less for a value below one tenth. -/
def wholeDigits (r : Reach) : Int :=
  ((Nat.toDigits 10 (r.value * pow10 400 / r.den)).length : Int) - 400

/-- The nearest decimal of the grid `10 ^ k` that rounds to the float, if one does. -/
def onGrid? (r : Reach) (k : Int) : Option (Nat × Int) :=
  let n := r.floor k
  match r.holds n k, r.holds (n + 1) k with
  | true, true => some (if r.favoursNext n k then n + 1 else n, k)
  | true, false => some (n, k)
  | false, true => some (n + 1, k)
  | false, false => none

/-- The first hit on grids that grow finer, `digits` being the number of digits of the first. -/
def firstHit (r : Reach) : Nat → Nat → Nat × Int
  | 0, digits => (r.floor (r.wholeDigits - digits), r.wholeDigits - digits)
  | more + 1, digits =>
    match r.onGrid? (r.wholeDigits - digits) with
    | some hit => hit
    | none => r.firstHit more (digits + 1)

end Reach

/-- The shortest decimal `n * 10 ^ k` that rounds to a positive finite float; seventeen digits
always do. -/
def shortest (d : Double) : Nat × Int :=
  d.reach.firstHit 17 1

def trimZeros (digits : List Char) : List Char :=
  (digits.reverse.dropWhile (· = '0')).reverse

/-- Positional notation for exponents from -5 to 15, with at least one digit after the point;
scientific notation with a signed exponent for all others. -/
def layout (digits : List Char) (exponent : Int) : List Char :=
  if -5 ≤ exponent ∧ exponent ≤ 15 then
    if exponent < 0 then
      '0' :: '.' :: List.replicate (-exponent - 1).toNat '0' ++ digits
    else
      let places := exponent.toNat + 1
      if digits.length ≤ places then
        digits ++ List.replicate (places - digits.length) '0' ++ ['.', '0']
      else digits.take places ++ '.' :: digits.drop places
  else
    let mantissa :=
      match digits with
      | first :: second :: rest => first :: '.' :: second :: rest
      | digits => digits
    mantissa ++ 'e' :: (if exponent < 0 then '-' else '+') :: Nat.toDigits 10 exponent.natAbs

/-- The text of a finite float. -/
def chars (d : Double) : List Char :=
  let magnitude :=
    if d.isZero then ['0', '.', '0']
    else
      let (n, k) := d.shortest
      let digits := Nat.toDigits 10 n
      layout (trimZeros digits) (k + digits.length - 1)
  if d.negative then '-' :: magnitude else magnitude

/-- The text of any float. -/
def text (d : Double) : String :=
  if d.isFinite then .ofList d.chars
  else if d.isNaN then "NaN"
  else if d.negative then "-inf"
  else "inf"

end FieldPipeline.Double
