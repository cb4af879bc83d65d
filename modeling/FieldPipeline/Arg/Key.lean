import FieldPipeline.Arg
import FieldPipeline.Text.Literal

namespace FieldPipeline

/-- What an argument reduces to: a value in which an object may stand for its identity. Arguments
that are configured the same have the same tree. -/
inductive KeyTree where
  | null
  | bool (b : Bool)
  | number (n : Number)
  | string (s : String)
  | array (items : List KeyTree)
  | object (fields : List (String × KeyTree))
  | identity (id : String)
deriving Repr, Inhabited

namespace KeyTree

/-- How the identity of an object is shown. -/
def identityChars (id : String) : List Char :=
  ['<', 'o', 'b', 'j', ':'] ++ id.toList ++ ['>']

mutual

def chars : KeyTree → List Char
  | null => Value.null.chars
  | bool b => (Value.bool b).chars
  | number n => n.chars
  | string s => Text.Quoted.encode s.toList
  | array items => Text.Compact.array (itemsChars items)
  | object fields => Text.Compact.object (fieldsChars fields)
  | identity id => identityChars id

def itemsChars : List KeyTree → List (List Char)
  | [] => []
  | t :: rest => t.chars :: itemsChars rest

def fieldsChars : List (String × KeyTree) → List (List Char)
  | [] => []
  | (k, t) :: rest => Text.Compact.field k t.chars :: fieldsChars rest

end

def text (t : KeyTree) : String :=
  .ofList t.chars

def int (n : Int) : KeyTree :=
  number (.int n)

end KeyTree

namespace Arg

mutual

def keyTree : Arg → KeyTree
  | null => .null
  | bool b => .bool b
  | int n => .int n
  | float d =>
    if h : d.isFinite then .number (.float d h) else .object [("$float", .string d.text)]
  | string s => .string s
  | list items => .array (keyTrees items)
  | map entries => .object (Table.ofPairs (keyPairs entries))
  | case name => .object [("$enum", .string name), ("value", .null)]
  | backedCase name value => .object [("$enum", .string name), ("value", value.keyTree)]
  | instant t => .object [("$datetime", .int t.micros), ("offset", .int t.offset)]
  | object className id => .object [("$object", .string className), ("id", .identity id)]
  | resource tag => .object [("$resource", .string tag)]

def keyTrees : List Arg → List KeyTree
  | [] => []
  | a :: rest => a.keyTree :: keyTrees rest

def keyPairs : List (String × Arg) → List (String × KeyTree)
  | [] => []
  | (k, a) :: rest => (k, a.keyTree) :: keyPairs rest

end

/-- One key for a whole argument list. -/
def key (args : List Arg) : String :=
  (KeyTree.array (keyTrees args)).text

/-- The text that diagnostics show. -/
def diagnostic : Arg → String
  | object className id =>
    Text.Literal.fields "Object"
      [("class", Text.Literal.encode className), ("id", .ofList (KeyTree.identityChars id))]
  | a => a.keyTree.text

end Arg

end FieldPipeline
