import FieldPipeline.Arg.Key
import FieldPipeline.Transformer

namespace FieldPipeline

/-- How many of the following declarations a group takes. -/
inductive Take where
  | all
  | exactly (n : Nat)
deriving DecidableEq, Repr

def Take.ofCount : Option Nat → Take
  | none => all
  | some n => exactly n

def Take.text : Take → String
  | all => "all remaining"
  | exactly n => toString n

/-- The result of a collecting group: a list, or an object with one label for each node. -/
inductive CollectShape where
  | count (n : Nat)
  | labels (names : List String)
deriving DecidableEq, Repr

/-- What a request refers to. -/
inductive Identity (ρ σ : Type) where
  /-- A node type, or a record method by naming convention. -/
  | named (name : String)
  | given (label : String) (node : Transformer ρ σ)

structure Request (ρ σ : Type) where
  identity : Identity ρ σ
  /-- Passed whenever the node runs. -/
  callArgs : List Arg := []
  /-- Used to construct the node. -/
  constructorArgs : Option (List Arg) := none

def Identity.name {ρ σ : Type} : Identity ρ σ → String
  | named name => name
  | given _ node => node.name

mutual

/-- A request attached to a field. It asks for one node, protects the node before it, or groups the
declarations that follow it. -/
inductive Declaration (ρ σ : Type) where
  | node (request : Request ρ σ)
  /-- Replaces a failure of the node declared before with a fallback. -/
  | failTo (fallback : Arg) (handler : Option (Handler ρ σ))
  | group (g : Grouping ρ σ)

inductive Grouping (ρ σ : Type) where
  /-- One sub-chain. -/
  | wrap (count : Option Nat)
  /-- A sub-chain for every element of a collection. -/
  | each (count : Option Nat)
  /-- Every node on the same input, their outputs gathered. -/
  | collect (shape : CollectShape)
  /-- The output of the first node that succeeds. -/
  | any (count : Option Nat)
  /-- Every node on the same input, which passes through. -/
  | all (count : Option Nat)
  /-- A sub-chain that runs if a condition holds, or does not hold if negated. -/
  | when (condition : Declaration ρ σ) (negate : Bool) (count : Option Nat)
    (otherwise : Option Arg)
  /-- Replaces a failure of a sub-chain with a fallback. -/
  | failNextTo (fallback : Arg) (handler : Option (Handler ρ σ)) (count : Option Nat)
  /-- Gives rejections another template; pairs come before the general template. -/
  | errorTemplate (template : Option String) (pairs : List (String × String))
    (count : Option Nat)
  /-- A sub-chain that is there while one of these groups is active. -/
  | groups (names : List String) (count : Option Nat)

end

variable {ρ σ : Type}

instance : Inhabited (Declaration ρ σ) :=
  ⟨.node { identity := .named "" }⟩

namespace Grouping

def name : Grouping ρ σ → String
  | wrap _ => "Wrap"
  | each _ => "Each"
  | collect _ => "Collect"
  | any _ => "Any"
  | all _ => "All"
  | when .. => "When"
  | failNextTo .. => "FailNextTo"
  | errorTemplate .. => "ErrorTemplate"
  | groups .. => "Groups"

def take : Grouping ρ σ → Take
  | wrap count | each count | any count | all count | when _ _ count _
  | errorTemplate _ _ count | groups _ count => .ofCount count
  | collect (.count n) => .exactly n
  | collect (.labels names) => .exactly names.length
  | failNextTo _ _ count => .exactly (count.getD 1)

end Grouping

namespace Declaration

/-- The name that diagnostics show. -/
def name : Declaration ρ σ → String
  | node request => request.identity.name
  | failTo .. => "FailTo"
  | group g => g.name

/-- How many of the following declarations a declaration takes. -/
def take : Declaration ρ σ → Take
  | group g => g.take
  | _ => .exactly 0

end Declaration

/-- A cursor over the declarations of one field. -/
structure Queue (ρ σ : Type) where
  declarations : List (Declaration ρ σ)
  position : Nat := 0

namespace Queue

def current? (q : Queue ρ σ) : Option (Declaration ρ σ) :=
  q.declarations[q.position]?

/-- Moves past one declaration, if there is one. -/
def advance (q : Queue ρ σ) : Queue ρ σ :=
  if q.position < q.declarations.length then { q with position := q.position + 1 } else q

def next (q : Queue ρ σ) : Option (Declaration ρ σ) × Queue ρ σ :=
  (q.current?, q.advance)

def remaining (q : Queue ρ σ) : Nat :=
  q.declarations.length - q.position

def isExhausted (q : Queue ρ σ) : Bool :=
  q.declarations.length ≤ q.position

/-- The declarations from the cursor on. -/
def rest (q : Queue ρ σ) : List (Declaration ρ σ) :=
  q.declarations.drop q.position

end Queue

end FieldPipeline
