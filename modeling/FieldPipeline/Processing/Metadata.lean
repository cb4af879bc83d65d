import FieldPipeline.Declaration

namespace FieldPipeline

/-- The declarations that belong to a field. -/
structure FieldDeclarations (ρ σ : Type) where
  field : String
  declarations : List (Declaration ρ σ)

/-- The fields of each record type and direction, in the order in which they are processed. -/
abbrev Metadata (ρ σ : Type) := Table (String × Direction) (List (FieldDeclarations ρ σ))

namespace Metadata

variable {ρ σ : Type}

def fields (m : Metadata ρ σ) (recordType : String) (direction : Direction) :
    List (FieldDeclarations ρ σ) :=
  (Table.get? (recordType, direction) m).getD []

/-- Declares a field as the last one of its type and direction; an earlier declaration of the field
is dropped. -/
def declare (m : Metadata ρ σ) (recordType : String) (direction : Direction) (field : String)
    (declarations : List (Declaration ρ σ)) : Metadata ρ σ :=
  let others := (m.fields recordType direction).filter (·.field ≠ field)
  Table.put (recordType, direction) (others ++ [⟨field, declarations⟩]) m

end Metadata

end FieldPipeline
