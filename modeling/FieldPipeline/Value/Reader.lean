import FieldPipeline.Value
import FieldPipeline.Value.Document

namespace FieldPipeline

/-- An integer literal that fits 64 bits, signed or unsigned, is an integer, apart from `-0`; all
others are floats, which must not overflow. -/
def Number.ofNumeral? (n : Numeral) : Option Number :=
  let fits := if n.negative then 0 < n.digits ∧ n.digits ≤ pow2 63 else n.digits < pow2 64
  if n.fraction = none ∧ n.exponent = none ∧ fits then
    some (.int (if n.negative then -n.digits else n.digits))
  else if h : n.toDouble.isFinite then some (.float n.toDouble h)
  else none

namespace Document

mutual

/-- The value of a document whose containers nest less than `levels` deep. -/
def value? : Nat → Document → Option Value
  | _, null => some .null
  | _, bool b => some (.bool b)
  | _, number n => (Number.ofNumeral? n).map .number
  | _, string s => s.map .string
  | levels, array items =>
    if levels ≤ 1 then none else (values? (levels - 1) items).map .array
  | levels, object fields =>
    if levels ≤ 1 then none else (fieldValues? (levels - 1) fields).map .ofPairs

def values? : Nat → List Document → Option (List Value)
  | _, [] => some []
  | levels, d :: rest => do return (← d.value? levels) :: (← values? levels rest)

def fieldValues? : Nat → List (Option String × Document) → Option (List (String × Value))
  | _, [] => some []
  | levels, (key, d) :: rest => do
    return (← key, ← d.value? levels) :: (← fieldValues? levels rest)

end

end Document

/-- How deep a text may nest, itself included. -/
def Value.maxLevels : Nat :=
  128

def Value.ofText? (s : String) : Option Value := do
  (← Document.ofText? s).value? Value.maxLevels

end FieldPipeline
