namespace FieldPipeline.Text

/-- The code points `first`, `first + stride`, … up to `last`, all moved by `distance`. -/
structure Shift where
  first : Nat
  last : Nat
  stride : Nat
  distance : Int
deriving DecidableEq, Repr

namespace Shift

def covers (s : Shift) (n : Nat) : Bool :=
  s.first ≤ n && n ≤ s.last && (n - s.first) % s.stride == 0

def target (s : Shift) (n : Nat) : Nat :=
  ((n : Int) + s.distance).toNat

def members (s : Shift) : List Nat :=
  (List.range ((s.last - s.first) / s.stride + 1)).map (s.first + s.stride * ·)

end Shift

/-- A map that moves the code points of some runs and keeps all others. -/
abbrev Shifts := List Shift

namespace Shifts

def apply (shifts : Shifts) (n : Nat) : Nat :=
  match shifts.find? (·.covers n) with
  | some s => s.target n
  | none => n

end Shifts

end FieldPipeline.Text
