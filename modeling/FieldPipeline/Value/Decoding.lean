import FieldPipeline.Value.Reader

namespace FieldPipeline.Document

/-- The known fields of an object. An unknown field is ignored, a repeated one is refused, and the
names must be readable. -/
def knownFields? (known : List String) :
    List (Option String × Document) → Option (List (String × Document))
  | [] => some []
  | (key, d) :: rest => do
    let key ← key
    let fields ← knownFields? known rest
    if key ∈ known then
      if Table.has key fields then none else return (key, d) :: fields
    else return fields

/-- The fields of a structure. In an array they stand in order, and some may be missing at the
end. -/
def fields? (known : List String) : Document → Option (List (String × Document))
  | object fields => knownFields? known fields
  | array items => if items.length ≤ known.length then some (known.zip items) else none
  | _ => none

/-- Reads a field, or gives a default for a missing one. -/
def field? {α : Type} (fields : List (String × Document)) (key : String) (missing : α)
    (read : Document → Option α) : Option α :=
  match Table.get? key fields with
  | some d => read d
  | none => some missing

def bool? : Document → Option Bool
  | bool b => some b
  | _ => none

def string? : Document → Option String
  | string s => s
  | _ => none

def nat? : Document → Option Nat
  | number n =>
    match Number.ofNumeral? n with
    | some (.int i) => if 0 ≤ i then some i.toNat else none
    | _ => none
  | _ => none

def list? {α : Type} (read : Document → Option α) : Document → Option (List α)
  | array items => items.mapM read
  | _ => none

/-- Reads an optional part, which may be null. -/
def optional? {α : Type} (read : Document → Option α) : Document → Option (Option α)
  | null => some none
  | d => (read d).map some

/-- One of several names, alone or as the only key of an object over null. -/
def caseName? : Document → Option String
  | string s => s
  | object [(key, null)] => key
  | _ => none

end FieldPipeline.Document
