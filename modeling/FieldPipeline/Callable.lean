import FieldPipeline.Record
import FieldPipeline.Text.Literal

namespace FieldPipeline

/-- Everything a node sees while it runs. -/
structure Scope (ρ : Type) where
  record : ρ
  context : Value
  direction : Direction
  tracePaths : Bool

/-- The text that diagnostics show. -/
def Scope.diagnostic {ρ σ : Type} [Record ρ σ] (scope : Scope ρ) : String :=
  Text.Literal.fields "Scope"
    [("record", Text.Literal.encode (Record.typeName scope.record)),
      ("direction", match scope.direction with
        | .inbound => "Inbound"
        | .outbound => "Outbound"),
      ("trace_paths", if scope.tracePaths then "true" else "false")]

/-- A compiled step from value to value. -/
abbrev Callable (ρ σ : Type) := Value → Scope ρ → Act σ Value

variable {ρ σ α : Type}

namespace Act

/-- The frames of the trace. -/
def path : Act σ (List String) :=
  fun s => (.ok s.trace.frames, s)

/-- Runs `body` with one more frame on the trace, and takes the frame off again. -/
def withFrame (name : String) (body : Act σ α) : Act σ α := fun s =>
  let (result, s') := body { s with trace := s.trace.push name }
  (result, { s' with trace := s'.trace.cut s.trace.depth })

/-- Changes a rejection on its way out, given the frames at that moment. -/
def onRejection (change : List String → Rejection → Rejection) (body : Act σ α) : Act σ α :=
  fun s =>
    match body s with
    | (.error (.rejected r), s') => (.error (.rejected (change s'.trace.frames r)), s')
    | other => other

/-- Gives control to `recover` after a rejection, in the state the failure left. -/
def orElseRejected (body : Act σ α) (recover : Rejection → Act σ α) : Act σ α := fun s =>
  match body s with
  | (.error (.rejected r), s') => recover r s'
  | other => other

end Act

namespace Scope

/-- Runs `body` under a frame while paths are traced. -/
def framed (scope : Scope ρ) (name : String) (body : Act σ α) : Act σ α :=
  if scope.tracePaths then Act.withFrame name body else body

/-- Names `node` as the origin of a rejection, and gives the path while paths are traced. -/
def enrich (scope : Scope ρ) (node : String) (path : List String) (r : Rejection) : Rejection :=
  let r := r.raisedAt node
  if scope.tracePaths then r.alongPath path else r

/-- Raises a rejection of `node` itself; its path ends with the node. -/
def reject (scope : Scope ρ) (node : String) (r : Rejection) : Act σ α := fun s =>
  (.error (.rejected (scope.enrich node (s.trace.frames ++ [node]) r)), s)

end Scope

namespace Callable

def identity : Callable ρ σ :=
  fun v _ => pure v

/-- The output of `first` goes into `second`. -/
def andThen (first second : Callable ρ σ) : Callable ρ σ := fun v scope => do
  second (← first v scope) scope

/-- Runs `inner` as the node `name`: under its frame, and with its name on rejections. -/
def asNode (name : String) (inner : Callable ρ σ) : Callable ρ σ := fun v scope =>
  scope.framed name (Act.onRejection (scope.enrich name) (inner v scope))

end Callable

end FieldPipeline
