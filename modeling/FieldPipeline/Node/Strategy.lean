import FieldPipeline.Transformer

namespace FieldPipeline

/-- How a composite joins its children. -/
inductive Strategy (ρ σ : Type) where
  /-- Left to right. -/
  | pipe
  | each
  /-- Into a list, or into an object with a label for each branch. -/
  | collect (labels : Option (List String))
  | firstSuccess
  | allOf
  | conditional (predicate : Callable ρ σ) (negate : Bool) (otherwise : Option Value)
  | recover (fallback : Arg) (handler : Option (Handler ρ σ))
  | replaceTemplate (template : Option String) (pairs : List (String × String))

namespace Strategy

variable {ρ σ : Type}

/-- One element of a collection, under a frame with its position. -/
def element (inner : Callable ρ σ) (scope : Scope ρ) (i : Nat) (v : Value) : Act σ Value :=
  scope.framed ("[" ++ toString i ++ "]")
    (Act.onRejection (fun _ r => r.inElement i) (inner v scope))

/-- The elements from position `i` on. -/
def elements (inner : Callable ρ σ) (scope : Scope ρ) : Nat → List Value → Act σ (List Value)
  | _, [] => pure []
  | i, v :: rest => do
    let out ← element inner scope i v
    let outs ← elements inner scope (i + 1) rest
    return out :: outs

/-- Every element of a list, or every field of an object. -/
def runEach (inner : Callable ρ σ) : Callable ρ σ := fun v scope =>
  match v with
  | .array items => do return .array (← elements inner scope 0 items)
  | .object fields => do
    let outs ← elements inner scope 0 (fields.map (·.2))
    return .object ((fields.map (·.1)).zip outs)
  | v =>
    scope.reject "Each"
      ({ template := Rejection.notIterable : Rejection }.addParam "type" (.string v.kind))

/-- The outputs of all branches on one input. -/
def runAll (v : Value) (scope : Scope ρ) : List (Callable ρ σ) → Act σ (List Value)
  | [] => pure []
  | branch :: rest => do
    let out ← branch v scope
    let outs ← runAll v scope rest
    return out :: outs

def runCollect (labels : Option (List String)) (branches : List (Callable ρ σ)) :
    Callable ρ σ := fun v scope =>
  match labels with
  | none => do return .array (← runAll v scope branches)
  | some labels => do
    let outs ← runAll v scope (branches.take labels.length)
    return .ofPairs (labels.zip outs)

/-- The first branch that is not rejected; `failures` are those before it, in reverse. -/
def firstOf (v : Value) (scope : Scope ρ) (attempts : Nat) :
    List Rejection → List (Callable ρ σ) → Act σ Value
  | failures, [] => scope.reject "Any" (.allFailed attempts failures.reverse)
  | failures, branch :: rest =>
    Act.orElseRejected (branch v scope) fun r => firstOf v scope attempts (r :: failures) rest

/-- Without branches the input passes through. -/
def runFirstSuccess (branches : List (Callable ρ σ)) : Callable ρ σ := fun v scope =>
  if branches.isEmpty then pure v else firstOf v scope branches.length [] branches

def runAllOf (branches : List (Callable ρ σ)) : Callable ρ σ := fun v scope => do
  let _ ← runAll v scope branches
  return v

def runConditional (predicate : Callable ρ σ) (negate : Bool) (otherwise : Option Value)
    (inner : Callable ρ σ) : Callable ρ σ := fun v scope => do
  let verdict ← predicate v scope
  if verdict.truthy ≠ negate then inner v scope else return otherwise.getD v

/-- What takes the place of a rejected value. -/
def fallbackFor [Record ρ σ] (fallback : Arg) (handler : Option (Handler ρ σ)) (v : Value)
    (scope : Scope ρ) (r : Rejection) : Act σ Value :=
  match handler with
  | none => pure fallback.toValue
  | some (.method name) =>
    Record.callMethod scope.record name
      { value := v, args := [fallback], context := some scope.context, failure := some r }
  | some (.function run) =>
    run { value := v, fallback := fallback.toValue, rejection := r, record := scope.record }

def runRecover [Record ρ σ] (fallback : Arg) (handler : Option (Handler ρ σ))
    (inner : Callable ρ σ) : Callable ρ σ := fun v scope =>
  Act.orElseRejected (inner v scope) (fallbackFor fallback handler v scope)

/-- A rejection gets a new template once: from the first pair for its template, else the general
one. -/
def retemplate (template : Option String) (pairs : List (String × String)) (r : Rejection) :
    Rejection :=
  if r.overridden then r
  else
    match (Table.get? r.template pairs).or template with
    | some t => r.replaceTemplate t
    | none => r

def runReplaceTemplate (template : Option String) (pairs : List (String × String))
    (inner : Callable ρ σ) : Callable ρ σ := fun v scope =>
  Act.onRejection (fun _ r => retemplate template pairs r) (inner v scope)

end Strategy

end FieldPipeline
