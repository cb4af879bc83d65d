import FieldPipeline.Fault
import FieldPipeline.Text.CodePoints
import FieldPipeline.Text.CaseMapping
import FieldPipeline.Value.Decoding

namespace FieldPipeline

/-- What happens to a field whose value is rejected. -/
inductive ErrorMode where
  /-- The run ends. -/
  | failFast
  /-- The field keeps its input. -/
  | collectFailToInput
  /-- The field becomes null. -/
  | collectFailToNull
  /-- The field becomes null and counts as never supplied. -/
  | collectNone
deriving DecidableEq, Repr

namespace ErrorMode

/-- Whether rejections are collected. -/
def collects : ErrorMode → Bool
  | failFast => false
  | _ => true

def text : ErrorMode → String
  | failFast => "fail_fast"
  | collectFailToInput => "collect_fail_to_input"
  | collectFailToNull => "collect_fail_to_null"
  | collectNone => "collect_none"

def all : List ErrorMode :=
  [failFast, collectFailToInput, collectFailToNull, collectNone]

def ofName? (name : String) : Option ErrorMode :=
  all.find? (·.text == name)

/-- Blanks around the name and the case of its letters do not matter. -/
def ofText (s : String) : Except Misconfiguration ErrorMode :=
  let name := Text.lowercase (Text.trim s)
  match ofName? name with
  | some mode => .ok mode
  | none => .error (.unknownErrorMode name)

end ErrorMode

structure Options where
  errorMode : ErrorMode := .failFast
  /-- Whether rejections carry the path of active nodes. -/
  tracePaths : Bool := false
deriving DecidableEq, Repr

namespace Options

/-- The options that settings ask for. A mode that does not read is ignored. -/
def ofSettings (mode trace : Option String) : Options where
  errorMode := ((mode.bind fun s => (ErrorMode.ofText s).toOption).getD .failFast)
  tracePaths :=
    match trace with
    | some s => s == "1" || Text.lowercase s == "true"
    | none => false

def toValue (o : Options) : Value :=
  .object [("error_mode", .string o.errorMode.text), ("trace_paths", .bool o.tracePaths)]

def ofDocument? (d : Document) : Option Options := do
  let fields ← d.fields? ["error_mode", "trace_paths"]
  return {
    errorMode := ←
      Document.field? fields "error_mode" .failFast fun d => d.caseName?.bind ErrorMode.ofName?
    tracePaths := ← Document.field? fields "trace_paths" false Document.bool? }

def ofText? (s : String) : Option Options := do
  ofDocument? (← Document.ofText? s)

end Options

end FieldPipeline
