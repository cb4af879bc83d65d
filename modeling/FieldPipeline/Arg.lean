import FieldPipeline.Instant
import FieldPipeline.Value

namespace FieldPipeline

/-- An argument of a declaration, fixed when the declaration is written down. -/
inductive Arg where
  | null
  | bool (b : Bool)
  | int (n : Int)
  | float (d : Double)
  | string (s : String)
  | list (items : List Arg)
  /-- Ordered pairs; a key may repeat. -/
  | map (entries : List (String × Arg))
  /-- An enumeration case. -/
  | case (name : String)
  /-- An enumeration case backed by a scalar. -/
  | backedCase (name : String) (value : Arg)
  | instant (t : Instant)
  /-- An object, known by its identity. -/
  | object (className : String) (identity : String)
  /-- A handle of which only the tag is known. -/
  | resource (tag : String)
deriving Repr, Inhabited

namespace Arg

mutual

def toValue : Arg → Value
  | null => .null
  | bool b => .bool b
  | int n => .number (.int n)
  | float d => if h : d.isFinite then .number (.float d h) else .null
  | string s => .string s
  | list items => .array (toValues items)
  | map entries => .ofPairs (toPairs entries)
  | case name => .string name
  | backedCase _ value => value.toValue
  | instant t => .string t.text
  | object className _ => .object [("class", .string className)]
  | resource tag => .string tag

def toValues : List Arg → List Value
  | [] => []
  | a :: rest => a.toValue :: toValues rest

def toPairs : List (String × Arg) → List (String × Value)
  | [] => []
  | (k, a) :: rest => (k, a.toValue) :: toPairs rest

end

/-- Whether an integer fits 64 bits with a sign. -/
def fitsInt (n : Int) : Bool :=
  -pow2 63 ≤ n && n < pow2 63

mutual

/-- Integers beyond the signed range become floats. -/
def ofValue : Value → Arg
  | .null => null
  | .bool b => bool b
  | .number (.int n) => if fitsInt n then int n else float (.ofInt n)
  | .number (.float d _) => float d
  | .string s => string s
  | .array items => list (ofValues items)
  | .object fields => map (ofPairs fields)

def ofValues : List Value → List Arg
  | [] => []
  | v :: rest => ofValue v :: ofValues rest

def ofPairs : List (String × Value) → List (String × Arg)
  | [] => []
  | (k, v) :: rest => (k, ofValue v) :: ofPairs rest

end

def string? : Arg → Option String
  | string s => some s
  | _ => none

def int? : Arg → Option Int
  | int n => some n
  | _ => none

def float? : Arg → Option Double
  | int n => some (.ofInt n)
  | float d => some d
  | _ => none

def bool? : Arg → Option Bool
  | bool b => some b
  | _ => none

end Arg

end FieldPipeline
