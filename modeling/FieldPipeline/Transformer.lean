import FieldPipeline.Callable

namespace FieldPipeline

/-- A dependency that is supplied after construction. -/
structure DependencySlot where
  name : String
  /-- The service to look up, if it could be determined. -/
  service : Option String
deriving DecidableEq, Repr

/-- What a service locator supplies: a text, or an object that only the application can use. -/
inductive Service where
  | text (s : String)
  | object
deriving DecidableEq, Repr

/-- A node type's instance. Its dependencies are filled first, in order, and then it is booted once.
What it remembers is part of the application's state. -/
structure Transformer (ρ σ : Type) where
  name : String
  apply : Value → List Arg → Scope ρ → Act σ Value
  slots : List DependencySlot := []
  fill : String → Service → Act σ Unit := fun _ _ => pure ()
  /-- May read the record that first caused resolution. -/
  boot : ρ → Act σ Unit := fun _ => pure ()

/-- The identity of an instance: the label of a ready-made one, or the number of a constructed
one. -/
inductive InstanceId where
  | given (label : String)
  | made (n : Nat)
deriving DecidableEq, Repr

def InstanceId.text : InstanceId → String
  | given label => "<inst:" ++ label ++ ">"
  | made n => .ofList (Text.hexDigits n)

structure Instance (ρ σ : Type) where
  id : InstanceId
  node : Transformer ρ σ

/-- What a failure handler sees. -/
structure Failure (ρ : Type) where
  /-- The value that entered the protected nodes. -/
  value : Value
  fallback : Value
  rejection : Rejection
  record : ρ

/-- Its result takes the place of the fallback. -/
inductive Handler (ρ σ : Type) where
  /-- A method of the record, called with the fallback as its only argument. -/
  | method (name : String)
  | function (run : Failure ρ → Act σ Value)

end FieldPipeline
