import FieldPipeline.Callable

namespace FieldPipeline.Scripted

/-- What scripted nodes and records remember. -/
structure Desk where
  /-- Last entry first. -/
  log : List Value := []
  /-- How many stateful nodes there are. -/
  nodes : Nat := 0
  /-- The number of calls of each counting node. -/
  calls : Table Nat Nat := []
  /-- The filled slots of each node that has any, in order. -/
  filled : Table Nat (List String) := []

/-- Writes to the log. -/
def note (entry : List Value) : StateM (RunState Desk) Unit :=
  modify fun s => { s with app := { s.app with log := .array entry :: s.app.log } }

/-- A small script that stands for a step of an application. It turns a value into a value, and may
look at its surroundings, write to a log, or fail. -/
inductive Behaviour where
  | pass
  /-- The arguments. -/
  | args
  /-- The detail of the failure, or null. -/
  | failure
  /-- The diagnostic of the scope, or null. -/
  | scope
  /-- Everything in sight. -/
  | probe
  | append (s : String)
  | const (v : Value)
  | raise (r : Rejection)
  | abort (f : Fault)
  | log (tag : Value)
  | startsWith (s : String)
  | get (field : String)
  /-- One of two behaviours, by the text of the value. -/
  | on (text : String) (hit miss : Behaviour)
  | seq (steps : List Behaviour)

def stringOrEmpty (v : Value) : String :=
  v.string?.getD ""

def field? (v : Value) (key : String) : Option Value :=
  match v with
  | .object fields => Table.get? key fields
  | _ => none

def items (v : Value) : List Value :=
  match v with
  | .array items => items
  | _ => []

def nat? (v : Value) : Option Nat :=
  match v with
  | .number (.int n) => if 0 ≤ n then some n.toNat else none
  | _ => none

/-- The rejection that a specification asks for. -/
def rejectionOf (spec : Value) : Rejection where
  template := ((field? spec "template").bind Value.string?).getD "raised"
  params :=
    match field? spec "params" with
    | some (.object fields) => fields.foldl (fun t (k, v) => putSorted k v t) []
    | _ => []
  debug := field? spec "debug"
  origin := (field? spec "origin").bind Value.string?
  path :=
    match field? spec "path" with
    | some (.array names) => some (names.map stringOrEmpty)
    | _ => none
  indices := (((field? spec "indices").map items).getD []).filterMap nat?
  property := (field? spec "property").bind Value.string?

/-- The fault that a kind and a message ask for. -/
def faultOf (kind message : String) : Fault :=
  if kind = "internal" then .internal message
  else if kind = "json" then .unreadable "EOF while parsing an object at line 1 column 1"
  else .configuration (.custom message)

namespace Behaviour

mutual

/-- The behaviour that a value describes; a value that describes none passes. -/
def ofValue : Value → Behaviour
  | .string "args" => args
  | .string "failure" => failure
  | .string "scope" => scope
  | .string "probe" => probe
  | .object ((key, v) :: _) => ofField key v
  | _ => pass

/-- The behaviour of an object with one key. -/
def ofField (key : String) : Value → Behaviour
  | .array steps =>
    match key with
    | "seq" => seq (ofValues steps)
    | "on" => choice steps
    | "abort" =>
      abort (faultOf (stringOrEmpty (steps[0]?.getD .null)) (stringOrEmpty (steps[1]?.getD .null)))
    | "const" => const (.array steps)
    | "log" => log (.array steps)
    | "raise" => raise (rejectionOf .null)
    | "append" => append ""
    | "prefix" => startsWith ""
    | "get" => get ""
    | _ => pass
  | v =>
    match key with
    | "append" => append (stringOrEmpty v)
    | "const" => const v
    | "raise" => raise (rejectionOf v)
    | "abort" => abort (faultOf "" "")
    | "log" => log v
    | "prefix" => startsWith (stringOrEmpty v)
    | "get" => get (stringOrEmpty v)
    | _ => pass

/-- A text and two behaviours. -/
def choice : List Value → Behaviour
  | [text, hit, miss] => on (stringOrEmpty text) (ofValue hit) (ofValue miss)
  | [text, hit] => on (stringOrEmpty text) (ofValue hit) pass
  | _ => pass

def ofValues : List Value → List Behaviour
  | [] => []
  | v :: rest => ofValue v :: ofValues rest

end

end Behaviour

/-- What a behaviour can see besides the value. -/
structure Surroundings where
  args : List Arg := []
  recordType : String
  field? : String → Option Value
  context : Option Value := none
  failure : Option Rejection := none
  fallback : Option Value := none
  /-- The diagnostic of the scope, its direction, and whether paths are traced. -/
  scope : Option (String × Direction × Bool) := none

namespace Surroundings

def argValues (s : Surroundings) : Value :=
  .array (s.args.map Arg.toValue)

def failureValue (s : Surroundings) : Value :=
  match s.failure with
  | some r => .string r.detail
  | none => .null

/-- Everything in sight, given the current frames. -/
def probe (s : Surroundings) (v : Value) (path : List String) : Value :=
  .object <|
    [("value", v), ("args", s.argValues), ("record", .string s.recordType)] ++
    (s.context.map (("context", ·))).toList ++
    (s.fallback.map (("fallback", ·))).toList ++
    (s.failure.map fun r => ("failure", .string r.detail)).toList ++
    match s.scope with
    | some (_, direction, tracePaths) =>
      [("direction", .string direction.text), ("trace", .bool tracePaths),
        ("path", .array (path.map .string))]
    | none => []

end Surroundings

namespace Behaviour

mutual

def run (s : Surroundings) (v : Value) : Behaviour → Act Desk Value
  | pass => pure v
  | args => pure s.argValues
  | failure => pure s.failureValue
  | scope => pure <|
    match s.scope with
    | some (diagnostic, _, _) => .string diagnostic
    | none => .null
  | probe => do return s.probe v (← Act.path)
  | append text => pure (.string (stringOrEmpty v ++ text))
  | const w => pure w
  | raise r => throw (.rejected r)
  | abort f => throw f
  | log tag => do
    note [tag, .string v.text]
    return v
  | startsWith text => pure (.bool (text.toList.isPrefixOf (stringOrEmpty v).toList))
  | get field => pure ((s.field? field).getD .null)
  | on text hit miss => if v.text = text then hit.run s v else miss.run s v
  | seq steps => runAll s v steps

/-- Each step takes the output of the one before. -/
def runAll (s : Surroundings) (v : Value) : List Behaviour → Act Desk Value
  | [] => pure v
  | step :: rest => do runAll s (← step.run s v) rest

end

end Behaviour

end FieldPipeline.Scripted
