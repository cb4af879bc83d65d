import FieldPipeline.Text.Notation
import FieldPipeline.Text.Unprintable

namespace FieldPipeline.Text.Literal

def escape (c : Char) : List Char :=
  if c = '"' then ['\\', '"']
  else if c = '\\' then ['\\', '\\']
  else if c = '\x00' then ['\\', '0']
  else if c = '\n' then ['\\', 'n']
  else if c = '\r' then ['\\', 'r']
  else if c = '\t' then ['\\', 't']
  else if isUnprintable c then ['\\', 'u', '\x7b'] ++ hexDigits c.toNat ++ ['\x7d']
  else [c]

/-- The source literal of `s`, with its quotes, as diagnostics show strings. -/
def encode (s : String) : String :=
  .ofList ('"' :: s.toList.flatMap escape ++ ['"'])

/-- A bracketed list. -/
def list (items : List String) : String :=
  "[" ++ String.intercalate ", " items ++ "]"

/-- An optional part. -/
def option : Option String → String
  | none => "None"
  | some s => "Some(" ++ s ++ ")"

/-- A value with named parts. -/
def fields (name : String) (parts : List (String × String)) : String :=
  name ++ " \x7b " ++
    String.intercalate ", " (parts.map fun (label, text) => label ++ ": " ++ text) ++ " \x7d"

end FieldPipeline.Text.Literal
