import FieldPipeline.Arg
import FieldPipeline.Fault
import FieldPipeline.Text.CaseMapping

namespace FieldPipeline

/-- Whether values go into the record or out of it. -/
inductive Direction where
  | inbound
  | outbound
deriving DecidableEq, Repr

def Direction.text : Direction → String
  | inbound => "inbound"
  | outbound => "outbound"

/-- Names of the nodes that are running, outermost first. -/
structure Trace where
  frames : List String := []
deriving DecidableEq, Repr

namespace Trace

def push (t : Trace) (name : String) : Trace :=
  ⟨t.frames ++ [name]⟩

def depth (t : Trace) : Nat :=
  t.frames.length

/-- Drops the innermost frames beyond `depth`. -/
def cut (t : Trace) (depth : Nat) : Trace :=
  ⟨t.frames.take depth⟩

end Trace

/-- What running nodes can change: the application's own state and the trace. -/
structure RunState (σ : Type) where
  app : σ
  trace : Trace := {}

/-- A run changes its state even when it fails. -/
abbrev Act (σ : Type) := ExceptT Fault (StateM (RunState σ))

/-- What a record method takes besides the value and the arguments. -/
inductive Arity where
  | value
  | valueContext
deriving DecidableEq, Repr

structure MethodCall where
  value : Value
  args : List Arg
  /-- Given if the method takes it. -/
  context : Option Value := none
  /-- Given if the method handles a failure. -/
  failure : Option Rejection := none
deriving Repr

/-- The record a pipeline runs for. -/
class Record (ρ : Type) (σ : outParam Type) where
  typeName : ρ → String
  /-- There is a method exactly if it has an arity. -/
  arity? : ρ → String → Option Arity := fun _ _ => none
  callMethod : ρ → String → MethodCall → Act σ Value := fun r method _ =>
    throw (.configuration (.methodMissing (typeName r) method))
  activeGroups : ρ → Direction → List String := fun _ _ => []
  /-- Shared by all fields. -/
  context : ρ → Value := fun _ => .null
  get? : ρ → String → Option Value
  set : ρ → String → Value → ρ
  isFilled : ρ → String → Bool := fun r field => (get? r field).isSome
  /-- Marks a field as never supplied. -/
  unfill : ρ → String → ρ

/-- The name after `seen`, where `afterLower` tells whether a lower-case letter or an ASCII digit
came last. -/
def methodChars (afterLower : Bool) : List Char → List Char
  | [] => []
  | c :: rest =>
    if Text.isUppercase c then
      (if afterLower then ['_'] else []) ++ Text.Character.lowercase c ++ methodChars false rest
    else c :: methodChars (Text.isLowercase c || c.isDigit) rest

/-- The record method that a declared name stands for: `NormalizeName` is `normalize_name`. -/
def methodName (declared : String) : String :=
  .ofList (methodChars false declared.toList)

end FieldPipeline
