namespace FieldPipeline

def pow2 (n : Nat) : Nat :=
  Nat.pow 2 n

def pow10 (n : Nat) : Nat :=
  Nat.pow 10 n

/-- A 64-bit float, given by its bit pattern: a sign bit, eleven exponent bits, 52 fraction bits. -/
structure Double where
  bits : UInt64
deriving DecidableEq, Repr

namespace Double

def negative (d : Double) : Bool :=
  pow2 63 ≤ d.bits.toNat

def exponentField (d : Double) : Nat :=
  d.bits.toNat / pow2 52 % pow2 11

def fractionField (d : Double) : Nat :=
  d.bits.toNat % pow2 52

def isFinite (d : Double) : Bool :=
  d.exponentField != 0x7FF

def isNaN (d : Double) : Bool :=
  !d.isFinite && d.fractionField != 0

def isZero (d : Double) : Bool :=
  d.exponentField == 0 && d.fractionField == 0

/-- A finite float has the magnitude `significand * 2 ^ exponent`. -/
def significand (d : Double) : Nat :=
  if d.exponentField = 0 then d.fractionField else pow2 52 + d.fractionField

def exponent (d : Double) : Int :=
  (max d.exponentField 1 : Nat) - 1075

/-- The float with this sign and these exponent and fraction bits. -/
def signed (negative : Bool) (magnitude : Nat) : Double :=
  ⟨.ofNat (if negative then pow2 63 + magnitude else magnitude)⟩

def zero (negative : Bool) : Double :=
  signed negative 0

def infinity (negative : Bool) : Double :=
  signed negative (0x7FF * pow2 52)

def nan : Double :=
  signed false (0x7FF * pow2 52 + pow2 51)

/-- The integer nearest to `num / den`; a half goes to the even neighbour. -/
def roundHalfEven (num den : Nat) : Nat :=
  let low := num / den
  let rest := num % den
  if 2 * rest < den then low
  else if den < 2 * rest then low + 1
  else low + low % 2

/-- `num / den / 2 ^ e` as a quotient of naturals. -/
def scaled (num den : Nat) (e : Int) : Nat × Nat :=
  (num * pow2 (-e).toNat, den * pow2 e.toNat)

/-- The exponent that gives `num / den` a significand of 53 bits, or the least exponent there is. -/
def exponentOf (num den : Nat) : Int :=
  let guess : Int := (num.log2 : Int) - den.log2 - 52
  let (n, d) := scaled num den guess
  max (if n / d < pow2 52 then guess - 1 else guess) (-1074)

/-- The float nearest to `num / den`, infinite beyond the largest finite one. -/
def nearest (negative : Bool) (num den : Nat) : Double :=
  if num = 0 then zero negative
  else
    let e := exponentOf num den
    let (n, d) := scaled num den e
    let magnitude := (e + 1074).toNat * pow2 52 + roundHalfEven n d
    if magnitude < 0x7FF * pow2 52 then signed negative magnitude else infinity negative

def ofInt (n : Int) : Double :=
  nearest (n < 0) n.natAbs 1

end Double

end FieldPipeline
