import FieldPipeline.Value.Token

namespace FieldPipeline

/-- A parsed text of the data format, before numbers and strings are given values. A part of a text
that a reader ignores only has to be well formed. -/
inductive Document where
  | null
  | bool (b : Bool)
  | number (n : Numeral)
  | string (s : Option String)
  | array (items : List Document)
  | object (fields : List (Option String × Document))
deriving Repr

namespace Document

/-- A container that is still open, with what it holds so far in reverse. -/
inductive Frame where
  | array (items : List Document)
  | object (fields : List (Option String × Document)) (key : Option String)

/-- What may come next, and the containers that are open, innermost first. -/
inductive Parse where
  | value (stack : List Frame)
  | firstItem (stack : List Frame)
  | firstKey (stack : List Frame)
  | key (fields : List (Option String × Document)) (stack : List Frame)
  | colon (fields : List (Option String × Document)) (key : Option String) (stack : List Frame)
  | more (top : Frame) (stack : List Frame)
  | done (d : Document)

namespace Parse

/-- A finished value goes into the innermost open container. -/
def deliver (d : Document) : List Frame → Parse
  | [] => done d
  | .array items :: stack => more (.array (d :: items)) stack
  | .object fields k :: stack => more (.object ((k, d) :: fields) k) stack

def startValue? (stack : List Frame) : Token → Option Parse
  | .null => some (deliver .null stack)
  | .bool b => some (deliver (.bool b) stack)
  | .number n => some (deliver (.number n) stack)
  | .string s => some (deliver (.string s) stack)
  | .arrayStart => some (firstItem stack)
  | .objectStart => some (firstKey stack)
  | _ => none

def step? (t : Token) : Parse → Option Parse
  | value stack => startValue? stack t
  | firstItem stack =>
    if t = .arrayEnd then some (deliver (.array []) stack)
    else startValue? (.array [] :: stack) t
  | firstKey stack =>
    match t with
    | .objectEnd => some (deliver (.object []) stack)
    | .string s => some (colon [] s stack)
    | _ => none
  | key fields stack =>
    match t with
    | .string s => some (colon fields s stack)
    | _ => none
  | colon fields k stack => if t = .colon then some (value (.object fields k :: stack)) else none
  | more (.array items) stack =>
    match t with
    | .comma => some (value (.array items :: stack))
    | .arrayEnd => some (deliver (.array items.reverse) stack)
    | _ => none
  | more (.object fields _) stack =>
    match t with
    | .comma => some (key fields stack)
    | .objectEnd => some (deliver (.object fields.reverse) stack)
    | _ => none
  | done _ => none

def run? : Parse → List Token → Option Document
  | done d, [] => some d
  | _, [] => none
  | p, t :: rest => do run? (← p.step? t) rest

end Parse

/-- Reads one whole text. -/
def ofText? (s : String) : Option Document := do
  Parse.run? (.value []) (← Token.ofChars? s.toList)

end Document

end FieldPipeline
