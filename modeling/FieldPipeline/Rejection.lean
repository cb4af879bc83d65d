import FieldPipeline.Value

namespace FieldPipeline

/-- Puts a parameter into a list that is sorted by name. -/
def putSorted (key : String) (v : Value) : List (String × Value) → List (String × Value)
  | [] => [(key, v)]
  | (k, w) :: rest =>
    if key = k then (key, v) :: rest
    else if key < k then (key, v) :: (k, w) :: rest
    else (k, w) :: putSorted key v rest

/-- What a node raises at run time when it does not accept a value. The innermost node that sees a
rejection names its origin and path; nodes further out leave both alone. -/
structure Rejection where
  /-- Identifies the message. -/
  template : String
  /-- Sorted by name. -/
  params : List (String × Value) := []
  debug : Option Value := none
  /-- The innermost node that raised or saw the rejection. -/
  origin : Option String := none
  /-- The nodes that were active, outermost first, if paths are traced. -/
  path : Option (List String) := none
  /-- Element positions, outermost first. -/
  indices : List Nat := []
  /-- The field being processed. -/
  property : Option String := none
  /-- Whether a template override has replaced the template. -/
  overridden : Bool := false
deriving Repr, Inhabited

namespace Rejection

def addParam (r : Rejection) (key : String) (v : Value) : Rejection :=
  { r with params := putSorted key v r.params }

def param? (r : Rejection) (key : String) : Option Value :=
  Table.get? key r.params

/-- Names the origin unless there is one. -/
def raisedAt (r : Rejection) (node : String) : Rejection :=
  { r with origin := some (r.origin.getD node) }

/-- Gives the path unless there is one. -/
def alongPath (r : Rejection) (path : List String) : Rejection :=
  { r with path := some (r.path.getD path) }

/-- The rejection as seen from outside the element at `index`. -/
def inElement (r : Rejection) (index : Nat) : Rejection :=
  { r with indices := index :: r.indices }

def replaceTemplate (r : Rejection) (template : String) : Rejection :=
  { r with template, overridden := true }

def anyFailed : String :=
  "chain.any_failed"

def notIterable : String :=
  "chain.each.not_iterable"

/-- Raised when all of several attempts failed. -/
def allFailed (attempts : Nat) (failures : List Rejection) : Rejection :=
  { template := anyFailed : Rejection }
    |>.addParam "attempts" (.ofNat attempts)
    |>.addParam "failed" (.array (failures.map fun f => .string f.template))

def paramsText (params : List (String × Value)) : String :=
  if params.isEmpty then ""
  else " (" ++ String.intercalate ", " (params.map fun (k, v) => k ++ "=" ++ v.text) ++ ")"

def message (r : Rejection) : String :=
  "Processing failed: " ++ r.template ++ paramsText r.params ++
  (match r.property with
    | some p => " in property `" ++ p ++ "`"
    | none => "") ++
  (match r.origin with
    | some node => " at node " ++ node
    | none => "") ++
  (if r.indices.isEmpty then ""
    else " element " ++ String.join (r.indices.map fun i => "[" ++ toString i ++ "]")) ++
  (match r.path with
    | some names => " via " ++ String.intercalate " > " names
    | none => "")

/-- The rejection as a value; what is not set is left out. -/
def toValue (r : Rejection) : Value :=
  .object <|
    [("template", .string r.template), ("params", .object r.params)] ++
    (r.debug.map (("debug", ·))).toList ++
    (r.origin.map (("origin", .string ·))).toList ++
    (r.path.map fun names => ("path", .array (names.map .string))).toList ++
    (if r.indices.isEmpty then [] else [("indices", .array (r.indices.map .ofNat))]) ++
    (r.property.map (("property", .string ·))).toList

def detail (r : Rejection) : String :=
  r.toValue.text

end Rejection

end FieldPipeline
