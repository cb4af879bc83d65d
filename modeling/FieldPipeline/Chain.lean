import FieldPipeline.Resolver

namespace FieldPipeline

/-- A fault, and the number of declarations consumed before it was raised. Groups take declarations
from the list that they stand in themselves, so every walk over a list counts what it consumes. -/
structure Halt where
  fault : Fault
  position : Nat

abbrev Compiling (ρ σ : Type) := ExceptT Halt (StateM (Workspace ρ σ))

namespace Chain

variable {ρ σ α : Type}

/-- Takes declarations until `take` is satisfied, and tells how many were consumed. A visitor sees
one declaration, the position behind it and the declarations that follow. It tells whether the
declaration used up a slot, and how many of those that follow it consumed as well. -/
def consume {m : Type → Type} [Monad m] [MonadExcept Halt m] (take : Take) (label : String)
    (bound : Nat)
    (visit : α → Declaration ρ σ → Nat → (rest : List (Declaration ρ σ)) → rest.length < bound →
      m (α × Bool × Nat))
    (taken : Nat) (found : List String) (made : α) (position : Nat)
    (declarations : List (Declaration ρ σ)) (fits : declarations.length ≤ bound) : m (α × Nat) :=
  if take = .exactly taken then pure (made, 0)
  else
    match declarations with
    | [] =>
      match take with
      | .all => pure (made, 0)
      | .exactly expected =>
        throw ⟨.configuration (.shortage label expected taken found), position⟩
    | d :: rest => do
      let (made, slot, used) ← visit made d (position + 1) rest fits
      let (made, more) ← consume take label bound visit (if slot then taken + 1 else taken)
        (found ++ [d.name]) made (position + 1 + used) (rest.drop used)
        (by simp only [List.length_cons] at fits; simp only [List.length_drop]; omega)
      return (made, 1 + used + more)
termination_by declarations.length
decreasing_by simp only [List.length_cons, List.length_drop]; omega

/-- Passes over declarations without resolving them. -/
def skip (take : Take) (label : String) (position : Nat)
    (declarations : List (Declaration ρ σ)) : Except Halt Nat := do
  let (_, used) ← consume take label declarations.length
    (fun (_ : Unit) d position rest _ =>
      match d with
      | .failTo .. => return ((), false, 0)
      | .group g => return ((), true, ← skip g.take g.name position rest)
      | .node _ => return ((), true, 0))
    0 [] () position declarations (Nat.le_refl _)
  return used
termination_by declarations.length

/-- Attaches a position to the faults of `b`. -/
def located (position : Nat) (b : Build ρ σ α) : Compiling ρ σ α :=
  ExceptT.adapt (fun fault => ⟨fault, position⟩) b

def refuse (position : Nat) : Option Misconfiguration → Compiling ρ σ Unit
  | none => pure ()
  | some m => located position (Build.misconfigured m)

/-- A handler that is a record method must exist. -/
def handlerDefect? [Record ρ σ] (handler : Option (Handler ρ σ)) (owner : ρ) (label : String) :
    Option Misconfiguration :=
  match handler with
  | some (.method name) =>
    if (Record.arity? owner name).isNone then
      some (.handlerMissing label (Record.typeName owner) name)
    else none
  | _ => none

/-- Puts the last of the nodes, which are in reverse, under protection. -/
def recoverLast (fallback : Arg) (handler : Option (Handler ρ σ)) :
    List (Node ρ σ) → Build ρ σ (List (Node ρ σ))
  | [] => Build.misconfigured .nothingToRecover
  | last :: before =>
    pure (.fresh ("FailTo(" ++ last.name ++ ")") [last] (.recover fallback handler) :: before)

/-- Whether a group is left out for a record. -/
def isInactive [Record ρ σ] (owner : ρ) (direction : Direction) : Grouping ρ σ → Bool
  | .groups names _ => !names.any (· ∈ Record.activeGroups owner direction)
  | _ => false

/-- What must hold before the declarations of a group are compiled. -/
def openingDefect? [Record ρ σ] (owner : ρ) (g : Grouping ρ σ) : Option Misconfiguration :=
  match g with
  | .failNextTo _ handler _ => handlerDefect? handler owner g.name
  | _ => none

/-- Joins the children of a group. The condition of a conditional group is resolved last. -/
def join [Record ρ σ] (r : Resolver ρ σ) (owner : ρ) (g : Grouping ρ σ)
    (children : List (Node ρ σ)) : Build ρ σ (Node ρ σ) :=
  match g with
  | .wrap _ | .groups .. => pure (.fresh g.name children .pipe)
  | .each _ => pure (.fresh g.name children .each)
  | .collect (.count _) => pure (.fresh g.name children (.collect none))
  | .collect (.labels names) => pure (.fresh g.name children (.collect (some names)))
  | .any _ => pure (.fresh g.name children .firstSuccess)
  | .all _ => pure (.fresh g.name children .allOf)
  | .when condition negate _ otherwise => do
    let predicate ← r.resolve condition owner
    return .fresh ("When(" ++ predicate.name ++ ")") children
      (.conditional predicate.step.run negate (otherwise.map Arg.toValue))
  | .failNextTo fallback handler _ => pure (.fresh g.name children (.recover fallback handler))
  | .errorTemplate template pairs _ =>
    pure (.fresh g.name children (.replaceTemplate template pairs))

mutual

/-- The nodes of the declarations that `take` asks for, and how many declarations that were. -/
def compileChildren [Record ρ σ] (r : Resolver ρ σ) (owner : ρ) (direction : Direction)
    (take : Take) (label : String) (position : Nat) (declarations : List (Declaration ρ σ)) :
    Compiling ρ σ (List (Node ρ σ) × Nat) := do
  -- The nodes that are there so far are in reverse.
  let (done, used) ← consume take label declarations.length
    (fun (done : List (Node ρ σ)) d position rest _ =>
      match d with
      | .failTo fallback handler => do
        refuse position (handlerDefect? handler owner "FailTo")
        return (← located position (recoverLast fallback handler done), false, 0)
      | .group g => do
        let (node, used) ← compileGroup r owner direction g position rest
        return (node :: done, true, used)
      | .node request => do
        let l ← located position (r.resolve (.node request) owner)
        return (.leaf l :: done, true, 0))
    0 [] [] position declarations (Nat.le_refl _)
  return (done.reverse, used)
termination_by (declarations.length, 0)

/-- The node of a group, and how many of the declarations that follow belong to it. -/
def compileGroup [Record ρ σ] (r : Resolver ρ σ) (owner : ρ) (direction : Direction)
    (g : Grouping ρ σ) (position : Nat) (declarations : List (Declaration ρ σ)) :
    Compiling ρ σ (Node ρ σ × Nat) := do
  if isInactive owner direction g then
    let used ← ExceptT.mk (pure (skip g.take g.name position declarations))
    return (.fresh g.name [] .pipe, used)
  else
    refuse position (openingDefect? owner g)
    let (children, used) ←
      compileChildren r owner direction g.take g.name position declarations
    return (← located (position + used) (join r owner g children), used)
termination_by (declarations.length, 1)

end

/-- Takes declarations from a queue and compiles them into one node. The queue moves past what was
consumed, also when this fails. -/
def compile [Record ρ σ] (r : Resolver ρ σ) (q : Queue ρ σ) (owner : ρ) (direction : Direction)
    (take : Take) : StateM (Workspace ρ σ) (Except Fault (Node ρ σ) × Queue ρ σ) := do
  match ← (compileChildren r owner direction take "chain" q.position q.rest).run with
  | .ok (children, used) =>
    return (.ok (.fresh "Chain" children .pipe), { q with position := q.position + used })
  | .error halt => return (.error halt.fault, { q with position := halt.position })

/-- Compiles all declarations of a field into one callable. -/
def compileAll [Record ρ σ] (r : Resolver ρ σ) (declarations : List (Declaration ρ σ))
    (owner : ρ) (direction : Direction) : Build ρ σ (Compiled ρ σ) := do
  let (result, _) ← (compile r ⟨declarations, 0⟩ owner direction .all :
    StateM (Workspace ρ σ) (Except Fault (Node ρ σ) × Queue ρ σ))
  let node ← result
  return ⟨← Build.issue, node.compile⟩

end Chain

end FieldPipeline
