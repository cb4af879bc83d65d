import FieldPipeline.Rejection
import FieldPipeline.Value.Decoding

namespace FieldPipeline.Rejection

def fieldNames : List String :=
  ["template", "params", "debug", "origin", "path", "indices", "property"]

/-- Parameters are an object; of a repeated name, the last value counts. -/
def params? : Document → Option (List (String × Value))
  | .object fields => do
    let pairs ← Document.fieldValues? (Value.maxLevels - 2) fields
    return pairs.foldl (fun t (k, v) => putSorted k v t) []
  | _ => none

def ofDocument? (d : Document) : Option Rejection := do
  let fields ← d.fields? fieldNames
  let template ← (← Table.get? "template" fields).string?
  return {
    template
    params := ← Document.field? fields "params" [] params?
    debug := ← Document.field? fields "debug" none (·.optional? (·.value? (Value.maxLevels - 1)))
    origin := ← Document.field? fields "origin" none (·.optional? Document.string?)
    path := ← Document.field? fields "path" none (·.optional? (·.list? Document.string?))
    indices := ← Document.field? fields "indices" [] (·.list? Document.nat?)
    property := ← Document.field? fields "property" none (·.optional? Document.string?) }

def ofText? (s : String) : Option Rejection := do
  ofDocument? (← Document.ofText? s)

end FieldPipeline.Rejection
