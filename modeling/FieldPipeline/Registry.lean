import FieldPipeline.Declaration

namespace FieldPipeline

/-- Builds a node, or says why it cannot. -/
abbrev Constructor (ρ σ : Type) := List Arg → ExceptT Cause (StateM (RunState σ)) (Transformer ρ σ)

/-- What a registered name stands for. -/
inductive NodeType (ρ σ : Type) where
  /-- A name that is known but stands for no node. -/
  | foreign
  | buildable (requiresArguments : Bool) (construct : Constructor ρ σ)

abbrev Registry (ρ σ : Type) := Table String (NodeType ρ σ)

namespace Registry

variable {ρ σ : Type}

/-- Whether a name stands for a node type, and whether that needs constructor arguments. -/
structure TypeInfo where
  isNode : Bool
  requiresArguments : Bool
deriving DecidableEq, Repr

def info? (r : Registry ρ σ) (typeName : String) : Option TypeInfo :=
  (Table.get? typeName r).map fun
    | .foreign => ⟨false, false⟩
    | .buildable requiresArguments _ => ⟨true, requiresArguments⟩

/-- Registers a type that needs no constructor arguments. -/
def add (r : Registry ρ σ) (typeName : String) (construct : Constructor ρ σ) :
    Registry ρ σ :=
  Table.put typeName (.buildable false construct) r

/-- Registers a type that needs constructor arguments. -/
def addWithArgs (r : Registry ρ σ) (typeName : String) (construct : Constructor ρ σ) :
    Registry ρ σ :=
  Table.put typeName (.buildable true construct) r

def addForeign (r : Registry ρ σ) (typeName : String) : Registry ρ σ :=
  Table.put typeName .foreign r

/-- Runs a constructor; without arguments it is given none. -/
def construct (typeName : String) (build : Constructor ρ σ) (args : Option (List Arg)) :
    Act σ (Transformer ρ σ) := fun s =>
  match build (args.getD []) s with
  | (.ok node, s') => (.ok node, s')
  | (.error cause, s') => (.error (.configuration (.construction typeName cause)), s')

def instantiate (r : Registry ρ σ) (typeName : String) (args : Option (List Arg)) :
    Act σ (Transformer ρ σ) :=
  match Table.get? typeName r with
  | none => throw (.configuration (.unregistered typeName))
  | some .foreign => throw (.configuration (.notANode typeName))
  | some (.buildable _ build) => construct typeName build args

end Registry

/-- Supplies services by type name. -/
abbrev ServiceLocator := String → Option Service

/-- What the last resort may hand back. -/
inductive Fallback (ρ σ : Type) where
  /-- A new node. -/
  | node (t : Transformer ρ σ)
  /-- A node that the application keeps, known by its label. -/
  | kept (label : String) (t : Transformer ρ σ)
  | callable (run : Value → List Arg → Scope ρ → Act σ Value)

/-- Is asked when no type and no method goes by a name. -/
abbrev FallbackResolver (ρ σ : Type) :=
  String → Request ρ σ → ρ → StateM (RunState σ) (Option (Fallback ρ σ))

end FieldPipeline
