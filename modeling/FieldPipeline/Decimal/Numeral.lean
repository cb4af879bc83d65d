import FieldPipeline.Decimal.Double

namespace FieldPipeline

/-- A sign, digits with an optional point, an optional exponent of ten. -/
structure Numeral where
  sign : Option Char
  whole : List Char
  /-- The digits after the point, if there is a point. -/
  fraction : Option (List Char)
  exponent : Option Int
deriving DecidableEq, Repr

namespace Numeral

def digitsValue (cs : List Char) : Nat :=
  cs.foldl (fun n c => 10 * n + (c.toNat - '0'.toNat)) 0

/-- A leading sign and what follows it. -/
def splitSign : List Char → Option Char × List Char
  | '+' :: rest => (some '+', rest)
  | '-' :: rest => (some '-', rest)
  | rest => (none, rest)

/-- What may follow the digits: nothing, or `e` and an integer. -/
def exponent? : List Char → Option (Option Int)
  | [] => some none
  | c :: rest =>
    let (sign, digits) := splitSign rest
    if (c = 'e' ∨ c = 'E') ∧ digits ≠ [] ∧ digits.all Char.isDigit then
      let n : Int := digitsValue digits
      some (some (if sign = some '-' then -n else n))
    else none

/-- Reads a whole text. Which parts may be empty is up to the caller. -/
def read? (cs : List Char) : Option Numeral :=
  let (sign, body) := splitSign cs
  let whole := body.takeWhile Char.isDigit
  match body.dropWhile Char.isDigit with
  | '.' :: rest => do
    let exponent ← exponent? (rest.dropWhile Char.isDigit)
    return ⟨sign, whole, some (rest.takeWhile Char.isDigit), exponent⟩
  | rest => do
    let exponent ← exponent? rest
    return ⟨sign, whole, none, exponent⟩

def negative (n : Numeral) : Bool :=
  n.sign == some '-'

/-- All digits as one number, to be scaled by `scale`. -/
def digits (n : Numeral) : Nat :=
  digitsValue (n.whole ++ n.fraction.getD [])

/-- The power of ten that belongs to the last digit. -/
def scale (n : Numeral) : Int :=
  n.exponent.getD 0 - (n.fraction.getD []).length

/-- The nearest float. A magnitude from 10^310 is infinite and one below 10^(-330) is zero, so no
larger power of ten is computed. -/
def toDouble (n : Numeral) : Double :=
  let size := n.scale + (Nat.toDigits 10 n.digits).length
  if n.digits = 0 ∨ size < -330 then .zero n.negative
  else if 310 < size then .infinity n.negative
  else .nearest n.negative (n.digits * pow10 n.scale.toNat) (pow10 (-n.scale).toNat)

end Numeral

/-- Reads a float from a whole text: a numeral with at least one digit, or `inf`, `infinity` or
`nan` in any case. -/
def Double.ofText? (s : String) : Option Double :=
  let (sign, body) := Numeral.splitSign s.toList
  let word := String.ofList (body.map Char.toLower)
  if word = "inf" ∨ word = "infinity" then some (.infinity (sign == some '-'))
  else if word = "nan" then some .nan
  else do
    let n ← Numeral.read? s.toList
    if n.whole = [] ∧ n.fraction.getD [] = [] then none else return n.toDouble

end FieldPipeline
