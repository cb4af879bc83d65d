import FieldPipeline.Proofs.Threading

namespace FieldPipeline

open Outcome

variable {ρ σ : Type}

/-- What a pipeline may turn to, with what it hands over. -/
inductive Site (ρ σ : Type) where
  | leaf (l : Leaf ρ σ) (v : Value)
  | predicate (run : Callable ρ σ) (v : Value)
  | handler (fallback : Arg) (h : Handler ρ σ) (v : Value) (r : Rejection)
  /-- A group that rejects a value itself. -/
  | refusal (node : String) (r : Rejection)

def Site.run [Record ρ σ] (scope : Scope ρ) : Site ρ σ → Act σ Value
  | leaf l v => l.step.run v scope
  | predicate run v => run v scope
  | handler fallback h v r => Strategy.fallbackFor fallback (some h) v scope r
  | refusal node r => scope.reject node r

/-- What a node does with a value: which sites it turns to, what it makes of their answers, and
around which of them it keeps the position of an element. -/
inductive Plan (ρ σ : Type) : Type → Type 1 where
  | done {α : Type} (a : α) : Plan ρ σ α
  | ask (site : Site ρ σ) : Plan ρ σ Value
  | andThen {α β : Type} (first : Plan ρ σ α) (next : α → Plan ρ σ β) : Plan ρ σ β
  /-- The element at position `i`. -/
  | element (i : Nat) (inner : Plan ρ σ Value) : Plan ρ σ Value
  | orElse (first : Plan ρ σ Value) (next : Rejection → Plan ρ σ Value) : Plan ρ σ Value
  | retemplate (template : Option String) (pairs : List (String × String))
    (inner : Plan ρ σ Value) : Plan ρ σ Value

namespace Plan

def run [Record ρ σ] (scope : Scope ρ) : {α : Type} → Plan ρ σ α → Act σ α
  | _, done a => pure a
  | _, ask site => site.run scope
  | _, andThen first next => first.run scope >>= fun a => (next a).run scope
  | _, element i inner =>
    scope.framed ("[" ++ toString i ++ "]")
      (Act.onRejection (fun _ r => r.inElement i) (inner.run scope))
  | _, orElse first next => Act.orElseRejected (first.run scope) fun r => (next r).run scope
  | _, retemplate template pairs inner =>
    Act.onRejection (fun _ r => Strategy.retemplate template pairs r) (inner.run scope)

/-- Whatever is answered, the plan turns to sites with the property `P` only. -/
def Within (P : Site ρ σ → Prop) : {α : Type} → Plan ρ σ α → Prop
  | _, done _ => True
  | _, ask site => P site
  | _, andThen first next => first.Within P ∧ ∀ a, (next a).Within P
  | _, element _ inner => inner.Within P
  | _, orElse first next => first.Within P ∧ ∀ r, (next r).Within P
  | _, retemplate _ _ inner => inner.Within P

def elements (inner : Value → Plan ρ σ Value) : Nat → List Value → Plan ρ σ (List Value)
  | _, [] => done []
  | i, v :: rest =>
    andThen (element i (inner v)) fun out =>
      andThen (elements inner (i + 1) rest) fun outs => done (out :: outs)

def each (inner : Value → Plan ρ σ Value) (v : Value) : Plan ρ σ Value :=
  match v with
  | .array items => andThen (elements inner 0 items) fun outs => done (.array outs)
  | .object fields =>
    andThen (elements inner 0 (fields.map (·.2))) fun outs =>
      done (.object ((fields.map (·.1)).zip outs))
  | v =>
    ask (.refusal "Each"
      (({ template := Rejection.notIterable } : Rejection).addParam "type" (.string v.kind)))

def every (v : Value) : List (Value → Plan ρ σ Value) → Plan ρ σ (List Value)
  | [] => done []
  | branch :: rest =>
    andThen (branch v) fun out => andThen (every v rest) fun outs => done (out :: outs)

def collect (labels : Option (List String)) (branches : List (Value → Plan ρ σ Value))
    (v : Value) : Plan ρ σ Value :=
  match labels with
  | none => andThen (every v branches) fun outs => done (.array outs)
  | some labels =>
    andThen (every v (branches.take labels.length)) fun outs => done (.ofPairs (labels.zip outs))

def firstOf (v : Value) (attempts : Nat) :
    List Rejection → List (Value → Plan ρ σ Value) → Plan ρ σ Value
  | failures, [] => ask (.refusal "Any" (.allFailed attempts failures.reverse))
  | failures, branch :: rest => orElse (branch v) fun r => firstOf v attempts (r :: failures) rest

def firstSuccess (branches : List (Value → Plan ρ σ Value)) (v : Value) : Plan ρ σ Value :=
  if branches.isEmpty then done v else firstOf v branches.length [] branches

def allOf (branches : List (Value → Plan ρ σ Value)) (v : Value) : Plan ρ σ Value :=
  andThen (every v branches) fun _ => done v

def conditional (predicate : Callable ρ σ) (negate : Bool) (otherwise : Option Value)
    (inner : Value → Plan ρ σ Value) (v : Value) : Plan ρ σ Value :=
  andThen (ask (.predicate predicate v)) fun verdict =>
    if verdict.truthy ≠ negate then inner v else done (otherwise.getD v)

def recover (fallback : Arg) (handler : Option (Handler ρ σ)) (inner : Value → Plan ρ σ Value)
    (v : Value) : Plan ρ σ Value :=
  orElse (inner v) fun r =>
    match handler with
    | none => done fallback.toValue
    | some h => ask (.handler fallback h v r)

end Plan

namespace Node

mutual

/-- What a node does with a value. -/
def plan : Node ρ σ → Value → Plan ρ σ Value
  | leaf l, v => .ask (.leaf l v)
  | composite _ children strategy _, v =>
    match strategy with
    | .pipe => planAll children v
    | .each => .each (planAll children) v
    | .collect labels => .collect labels (plans children) v
    | .firstSuccess => .firstSuccess (plans children) v
    | .allOf => .allOf (plans children) v
    | .conditional predicate negate otherwise =>
      .conditional predicate negate otherwise (planAll children) v
    | .recover fallback handler => .recover fallback handler (planAll children) v
    | .replaceTemplate template pairs => .retemplate template pairs (planAll children v)

/-- One node after the other. -/
def planAll : List (Node ρ σ) → Value → Plan ρ σ Value
  | [], v => .done v
  | node :: rest, v => .andThen (node.plan v) (planAll rest)

/-- Every node on its own. -/
def plans : List (Node ρ σ) → List (Value → Plan ρ σ Value)
  | [] => []
  | node :: rest => node.plan :: plans rest

end

/-- What a node turns to itself, apart from its children. -/
inductive Asks : Node ρ σ → Site ρ σ → Prop
  | leaf (l : Leaf ρ σ) (v : Value) : Asks (.leaf l) (.leaf l v)
  | each {name : String} {children : List (Node ρ σ)} {made : Option (Callable ρ σ)} (v : Value) :
    Asks (.composite name children .each made)
      (.refusal "Each"
        (({ template := Rejection.notIterable } : Rejection).addParam "type" (.string v.kind)))
  | any {name : String} {children : List (Node ρ σ)} {made : Option (Callable ρ σ)}
      (attempts : Nat) (failures : List Rejection) :
    Asks (.composite name children .firstSuccess made)
      (.refusal "Any" (.allFailed attempts failures))
  | predicate {name : String} {children : List (Node ρ σ)} {made : Option (Callable ρ σ)}
      {run : Callable ρ σ} {negate : Bool} {otherwise : Option Value} (v : Value) :
    Asks (.composite name children (.conditional run negate otherwise) made) (.predicate run v)
  | handler {name : String} {children : List (Node ρ σ)} {made : Option (Callable ρ σ)}
      {fallback : Arg} {h : Handler ρ σ} (v : Value) (r : Rejection) :
    Asks (.composite name children (.recover fallback (some h)) made) (.handler fallback h v r)

/-- What a node turns to anywhere in its tree. -/
def MayAsk (node : Node ρ σ) (site : Site ρ σ) : Prop :=
  ∃ part ∈ node.parts, part.Asks site

@[simp] theorem mem_partsOf {nodes : List (Node ρ σ)} {part : Node ρ σ} :
    part ∈ partsOf nodes ↔ ∃ node ∈ nodes, part ∈ node.parts := by
  induction nodes with
  | nil => simp [partsOf]
  | cons node rest ih => simp [partsOf, ih]

@[simp] theorem mayAsk_leaf {l : Leaf ρ σ} {site : Site ρ σ} :
    (Node.leaf l).MayAsk site ↔ ∃ v, site = .leaf l v := by
  constructor
  · rintro ⟨part, hp, asks⟩
    rw [parts, List.mem_singleton] at hp
    subst hp
    cases asks with
    | leaf l v => exact ⟨v, rfl⟩
  · rintro ⟨v, rfl⟩
    exact ⟨_, mem_parts_self _, .leaf l v⟩

@[simp] theorem mayAsk_fresh {name : String} {children : List (Node ρ σ)} {strategy : Strategy ρ σ}
    {site : Site ρ σ} :
    (fresh name children strategy).MayAsk site ↔
      (fresh name children strategy).Asks site ∨ ∃ child ∈ children, child.MayAsk site := by
  constructor
  · rintro ⟨part, hp, asks⟩
    rcases List.mem_cons.mp hp with rfl | hp
    · exact .inl asks
    · obtain ⟨child, hc, hp⟩ := mem_partsOf.mp hp
      exact .inr ⟨child, hc, part, hp, asks⟩
  · rintro (asks | ⟨child, hc, part, hp, asks⟩)
    · exact ⟨_, mem_parts_self _, asks⟩
    · exact ⟨part, List.mem_cons_of_mem _ (mem_partsOf.mpr ⟨child, hc, hp⟩), asks⟩

end Node

section Within

variable {P : Site ρ σ → Prop}

namespace Plan

variable {inner : Value → Plan ρ σ Value} {branches : List (Value → Plan ρ σ Value)}

theorem elements_within (h : ∀ v, (inner v).Within P) (i : Nat) (items : List Value) :
    (elements inner i items).Within P := by
  induction items generalizing i with
  | nil => trivial
  | cons v rest ih => exact ⟨h v, fun _ => ⟨ih (i + 1), fun _ => trivial⟩⟩

theorem every_within (h : ∀ branch ∈ branches, ∀ v, (branch v).Within P) (v : Value) :
    (every v branches).Within P := by
  induction branches with
  | nil => trivial
  | cons branch rest ih =>
    obtain ⟨first, others⟩ := List.forall_mem_cons.mp h
    exact ⟨first v, fun _ => ⟨ih others, fun _ => trivial⟩⟩

theorem firstOf_within (h : ∀ branch ∈ branches, ∀ v, (branch v).Within P)
    (own : ∀ attempts failures, P (.refusal "Any" (.allFailed attempts failures))) (v : Value)
    (attempts : Nat) (failures : List Rejection) :
    (firstOf v attempts failures branches).Within P := by
  induction branches generalizing failures with
  | nil => exact own attempts failures.reverse
  | cons branch rest ih =>
    obtain ⟨first, others⟩ := List.forall_mem_cons.mp h
    exact ⟨first v, fun r => ih others (r :: failures)⟩

end Plan

namespace Node

mutual

theorem plan_within {node : Node ρ σ} (h : ∀ part ∈ node.parts, ∀ site, part.Asks site → P site)
    (v : Value) : (node.plan v).Within P := by
  cases node with
  | leaf l => exact h _ (mem_parts_self _) _ (.leaf l v)
  | composite name children strategy made =>
    have own := h _ (mem_parts_self _)
    have inner : ∀ part ∈ partsOf children, ∀ site, part.Asks site → P site :=
      fun part hp => h part (List.mem_cons_of_mem _ hp)
    rw [plan.eq_def]
    cases strategy with
    | pipe => exact planAll_within inner v
    | each =>
      cases v with
      | array items => exact ⟨Plan.elements_within (planAll_within inner) 0 items, fun _ => trivial⟩
      | object fields => exact ⟨Plan.elements_within (planAll_within inner) 0 _, fun _ => trivial⟩
      | _ => exact own _ (.each _)
    | collect labels =>
      have each := plans_within inner
      cases labels with
      | none => exact ⟨Plan.every_within each v, fun _ => trivial⟩
      | some labels =>
        refine ⟨Plan.every_within (fun branch hb => ?_) v, fun _ => trivial⟩
        exact each branch (List.mem_of_mem_take hb)
    | firstSuccess =>
      simp only [Plan.firstSuccess]
      split
      · trivial
      · exact Plan.firstOf_within (plans_within inner)
          (fun attempts failures => own _ (.any attempts failures)) v _ []
    | allOf => exact ⟨Plan.every_within (plans_within inner) v, fun _ => trivial⟩
    | conditional predicate negate otherwise =>
      refine ⟨own _ (.predicate v), fun verdict => ?_⟩
      dsimp only
      split
      · exact planAll_within inner v
      · trivial
    | recover fallback handler =>
      refine ⟨planAll_within inner v, fun r => ?_⟩
      cases handler with
      | none => trivial
      | some h => exact own _ (.handler v r)
    | replaceTemplate template pairs => exact planAll_within inner v

theorem planAll_within {nodes : List (Node ρ σ)}
    (h : ∀ part ∈ partsOf nodes, ∀ site, part.Asks site → P site) (v : Value) :
    (planAll nodes v).Within P := by
  cases nodes with
  | nil =>
    rw [planAll]
    trivial
  | cons node rest =>
    rw [planAll]
    have first := fun part hp => h part (List.mem_append_left _ hp)
    have others := fun part hp => h part (List.mem_append_right _ hp)
    exact ⟨plan_within first v, planAll_within others⟩

theorem plans_within {nodes : List (Node ρ σ)}
    (h : ∀ part ∈ partsOf nodes, ∀ site, part.Asks site → P site) :
    ∀ branch ∈ plans nodes, ∀ v, (branch v).Within P := by
  cases nodes with
  | nil => simp [plans]
  | cons node rest =>
    rw [plans, List.forall_mem_cons]
    have first := fun part hp => h part (List.mem_append_left _ hp)
    have others := fun part hp => h part (List.mem_append_right _ hp)
    exact ⟨plan_within first, plans_within others⟩

end

end Node

end Within

section Run

variable [Record ρ σ]

namespace Plan

/-- What follows a plan on each value. -/
def callable (plan : Value → Plan ρ σ Value) : Callable ρ σ :=
  fun v scope => (plan v).run scope

variable {inner : Value → Plan ρ σ Value} {branches : List (Value → Plan ρ σ Value)}

theorem elements_run (scope : Scope ρ) (i : Nat) (items : List Value) :
    Strategy.elements (callable inner) scope i items = (elements inner i items).run scope := by
  induction items generalizing i with
  | nil => rfl
  | cons v rest ih =>
    rw [Strategy.elements, ih]
    rfl

theorem runEach_callable : Strategy.runEach (callable inner) = callable (each inner) := by
  funext v scope
  cases v with
  | array items =>
    rw [Strategy.runEach, elements_run]
    rfl
  | object fields =>
    rw [Strategy.runEach, elements_run]
    rfl
  | _ => rfl

theorem every_run (v : Value) (scope : Scope ρ) (branches : List (Value → Plan ρ σ Value)) :
    Strategy.runAll v scope (branches.map callable) = (every v branches).run scope := by
  induction branches with
  | nil => rfl
  | cons branch rest ih =>
    rw [List.map_cons, Strategy.runAll, ih]
    rfl

theorem runCollect_callable (labels : Option (List String)) :
    Strategy.runCollect labels (branches.map callable) = callable (collect labels branches) := by
  funext v scope
  cases labels with
  | none =>
    rw [Strategy.runCollect, every_run]
    rfl
  | some labels =>
    rw [Strategy.runCollect, ← List.map_take, every_run]
    rfl

theorem firstOf_run (v : Value) (scope : Scope ρ) (attempts : Nat) (failures : List Rejection)
    (branches : List (Value → Plan ρ σ Value)) :
    Strategy.firstOf v scope attempts failures (branches.map callable) =
      (firstOf v attempts failures branches).run scope := by
  induction branches generalizing failures with
  | nil => rfl
  | cons branch rest ih =>
    rw [List.map_cons, Strategy.firstOf]
    simp only [ih]
    rfl

theorem runFirstSuccess_callable :
    Strategy.runFirstSuccess (branches.map callable) = callable (firstSuccess branches) := by
  funext v scope
  rw [Strategy.runFirstSuccess, firstOf_run, callable, firstSuccess, List.isEmpty_map,
    List.length_map]
  split <;> rfl

theorem runAllOf_callable :
    Strategy.runAllOf (branches.map callable) = callable (allOf branches) := by
  funext v scope
  rw [Strategy.runAllOf, every_run]
  rfl

theorem runConditional_callable (predicate : Callable ρ σ) (negate : Bool)
    (otherwise : Option Value) :
    Strategy.runConditional predicate negate otherwise (callable inner) =
      callable (conditional predicate negate otherwise inner) := by
  funext v scope
  rw [Strategy.runConditional, callable, callable, conditional, run]
  congr
  funext verdict
  split <;> rfl

theorem runRecover_callable (fallback : Arg) (handler : Option (Handler ρ σ)) :
    Strategy.runRecover fallback handler (callable inner) =
      callable (recover fallback handler inner) := by
  funext v scope
  rw [Strategy.runRecover, callable, callable, recover, run]
  congr
  funext r
  cases handler <;> rfl

theorem runReplaceTemplate_callable (template : Option String) (pairs : List (String × String)) :
    Strategy.runReplaceTemplate template pairs (callable inner) =
      callable fun v => .retemplate template pairs (inner v) := rfl

end Plan

namespace Node

mutual

/-- A node that has not been joined runs its plan. -/
theorem compile_plan {node : Node ρ σ} (h : node.IsFresh) :
    node.compile = Plan.callable node.plan := by
  cases node with
  | leaf l =>
    rw [compile, wrap, Callable.identity_andThen]
    rfl
  | composite name children strategy made =>
    obtain ⟨rfl, hc⟩ := h
    cases strategy with
    | pipe =>
      rw [compile, wrap, wrapAll_plan hc]
      rfl
    | each =>
      rw [compile, wrap, Callable.identity_andThen, wrapAll_plan hc, Plan.runEach_callable]
      rfl
    | collect labels =>
      rw [compile, wrap, Callable.identity_andThen, branches_plan hc, Plan.runCollect_callable]
      rfl
    | firstSuccess =>
      rw [compile, wrap, Callable.identity_andThen, branches_plan hc, Plan.runFirstSuccess_callable]
      rfl
    | allOf =>
      rw [compile, wrap, Callable.identity_andThen, branches_plan hc, Plan.runAllOf_callable]
      rfl
    | conditional predicate negate otherwise =>
      rw [compile, wrap, Callable.identity_andThen, wrapAll_plan hc, Plan.runConditional_callable]
      rfl
    | recover fallback handler =>
      rw [compile, wrap, Callable.identity_andThen, wrapAll_plan hc, Plan.runRecover_callable]
      rfl
    | replaceTemplate template pairs =>
      rw [compile, wrap, Callable.identity_andThen, wrapAll_plan hc,
        Plan.runReplaceTemplate_callable]
      rfl

theorem wrapAll_plan {nodes : List (Node ρ σ)} (h : AreFresh nodes) :
    wrapAll .identity nodes = Plan.callable (planAll nodes) := by
  cases nodes with
  | nil =>
    rw [wrapAll]
    rfl
  | cons node rest =>
    rw [wrapAll, wrapAll_eq_andThen h.2, ← compile, compile_plan h.1, wrapAll_plan h.2]
    rfl

theorem branches_plan {nodes : List (Node ρ σ)} (h : AreFresh nodes) :
    branches nodes = (plans nodes).map Plan.callable := by
  cases nodes with
  | nil => rw [branches, plans, List.map_nil]
  | cons node rest =>
    rw [branches, ← compile, compile_plan h.1, branches_plan h.2, plans, List.map_cons]

end

end Node

end Run

end FieldPipeline
