import FieldPipeline.Node.Strategy

namespace FieldPipeline

/-- A callable with a number of its own. -/
structure Compiled (ρ σ : Type) where
  number : Nat
  run : Callable ρ σ

structure Leaf (ρ σ : Type) where
  step : Compiled ρ σ
  /-- The instance behind the step, if there is one. -/
  backing : Option (Instance ρ σ) := none
  className : String
  /-- The record method behind the step, if there is one. -/
  method : Option String := none

/-- A compiled unit of a pipeline. A leaf runs one resolved step; a composite joins its children by
a strategy, once, and keeps the callable it made. -/
inductive Node (ρ σ : Type) where
  | leaf (l : Leaf ρ σ)
  | composite (name : String) (children : List (Node ρ σ)) (strategy : Strategy ρ σ)
    (made : Option (Callable ρ σ))

variable {ρ σ : Type}

instance : Inhabited (Node ρ σ) :=
  ⟨.composite "" [] .pipe none⟩

/-- `Class`, or `Class::method`. -/
def Leaf.name (l : Leaf ρ σ) : String :=
  match l.method with
  | some method => l.className ++ "::" ++ method
  | none => l.className

def Leaf.diagnostic (l : Leaf ρ σ) : String :=
  "Leaf(" ++ Text.Literal.encode l.name ++ ")"

namespace Node

/-- A composite that has not been joined yet. -/
def fresh (name : String) (children : List (Node ρ σ)) (strategy : Strategy ρ σ) : Node ρ σ :=
  composite name children strategy none

def name : Node ρ σ → String
  | leaf l => l.name
  | composite name .. => name

mutual

/-- The callable of a node whose input comes from `feed`. -/
def wrap [Record ρ σ] (feed : Callable ρ σ) : Node ρ σ → Callable ρ σ
  | leaf l => feed.andThen l.step.run
  | composite _ _ _ (some run) => run
  | composite _ children strategy none =>
    match strategy with
    | .pipe => wrapAll feed children
    | .each => feed.andThen (Strategy.runEach (wrapAll .identity children))
    | .collect labels => feed.andThen (Strategy.runCollect labels (branches children))
    | .firstSuccess => feed.andThen (Strategy.runFirstSuccess (branches children))
    | .allOf => feed.andThen (Strategy.runAllOf (branches children))
    | .conditional predicate negate otherwise =>
      feed.andThen
        (Strategy.runConditional predicate negate otherwise (wrapAll .identity children))
    | .recover fallback handler =>
      feed.andThen (Strategy.runRecover fallback handler (wrapAll .identity children))
    | .replaceTemplate template pairs =>
      feed.andThen
        (Strategy.runReplaceTemplate template pairs (wrapAll .identity children))

/-- The first child sees the output of `feed` first. -/
def wrapAll [Record ρ σ] (feed : Callable ρ σ) : List (Node ρ σ) → Callable ρ σ
  | [] => feed
  | child :: rest => wrapAll (child.wrap feed) rest

/-- Every child on its own. -/
def branches [Record ρ σ] : List (Node ρ σ) → List (Callable ρ σ)
  | [] => []
  | child :: rest => child.wrap .identity :: branches rest

end

/-- The node after `wrap`: a composite keeps the first callable made of it. -/
def wrapped [Record ρ σ] (feed : Callable ρ σ) : Node ρ σ → Node ρ σ
  | leaf l => leaf l
  | composite name children strategy made =>
    composite name children strategy (some ((composite name children strategy made).wrap feed))

/-- The callable of a node that starts a pipeline. -/
def compile [Record ρ σ] (node : Node ρ σ) : Callable ρ σ :=
  node.wrap .identity

mutual

/-- The text that diagnostics show. -/
def diagnostic : Node ρ σ → String
  | leaf l => l.diagnostic
  | composite name children _ _ =>
    Text.Literal.fields "Composite"
      [("name", Text.Literal.encode name),
        ("children", Text.Literal.list (diagnostics children))]

def diagnostics : List (Node ρ σ) → List String
  | [] => []
  | child :: rest => child.diagnostic :: diagnostics rest

end

end Node

end FieldPipeline
