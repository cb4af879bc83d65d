import FieldPipeline.Decimal.Shortest
import FieldPipeline.Table
import FieldPipeline.Text.Notation

namespace FieldPipeline

/-- An integer stays apart from the float of the same size. -/
inductive Number where
  | int (n : Int)
  | float (d : Double) (finite : d.isFinite = true)
deriving DecidableEq, Repr

/-- What a pipeline takes and yields. An object's fields keep the order of insertion. -/
inductive Value where
  | null
  | bool (b : Bool)
  | number (n : Number)
  | string (s : String)
  | array (items : List Value)
  | object (fields : List (String × Value))
deriving Repr, Inhabited

namespace Number

def chars : Number → List Char
  | int n => (if n < 0 then ['-'] else []) ++ Nat.toDigits 10 n.natAbs
  | float d _ => d.chars

def isZero : Number → Bool
  | int n => n == 0
  | float d _ => d.isZero

end Number

namespace Value

def ofNat (n : Nat) : Value :=
  number (.int n)

mutual

def chars : Value → List Char
  | null => ['n', 'u', 'l', 'l']
  | bool true => ['t', 'r', 'u', 'e']
  | bool false => ['f', 'a', 'l', 's', 'e']
  | number n => n.chars
  | string s => Text.Quoted.encode s.toList
  | array items => Text.Compact.array (itemsChars items)
  | object fields => Text.Compact.object (fieldsChars fields)

def itemsChars : List Value → List (List Char)
  | [] => []
  | v :: rest => v.chars :: itemsChars rest

def fieldsChars : List (String × Value) → List (List Char)
  | [] => []
  | (k, v) :: rest => Text.Compact.field k v.chars :: fieldsChars rest

end

/-- The compact text. -/
def text (v : Value) : String :=
  .ofList v.chars

/-- The name of a value's kind, as error parameters show it. -/
def kind : Value → String
  | null => "null"
  | bool _ => "bool"
  | number _ => "number"
  | string _ => "string"
  | array _ => "array"
  | object _ => "object"

/-- Whether a value counts as true when a condition yields it. -/
def truthy : Value → Bool
  | null => false
  | bool b => b
  | number n => !n.isZero
  | string s => s ≠ ""
  | array items => !items.isEmpty
  | object fields => !fields.isEmpty

def string? : Value → Option String
  | string s => some s
  | _ => none

/-- An object of these pairs; a repeated key keeps its first place and its last value. -/
def ofPairs (pairs : List (String × Value)) : Value :=
  object (Table.ofPairs pairs)

end Value

end FieldPipeline
