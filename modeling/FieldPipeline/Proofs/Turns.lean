import FieldPipeline.Proofs.Answers

namespace FieldPipeline

open Outcome

variable {ρ σ α : Type}

/-- The fault with its rejection changed, if it is one. -/
def Fault.mapRejection (change : Rejection → Rejection) : Fault → Fault
  | rejected r => rejected (change r)
  | other => other

theorem Act.onRejection_eq (f : Rejection → Rejection) (body : Act σ α) (s : RunState σ) :
    onRejection (fun _ => f) body s =
      ((body s).1.mapError (Fault.mapRejection f), (body s).2) := by
  unfold onRejection
  rcases body s with ⟨fault | a, s'⟩
  · cases fault <;> rfl
  · rfl

/-- A change that does not look at the frames may be made outside a frame. -/
theorem Scope.framed_onRejection (scope : Scope ρ) (name : String) (f : Rejection → Rejection)
    (body : Act σ α) : scope.framed name (Act.onRejection (fun _ => f) body) =
      Act.onRejection (fun _ => f) (scope.framed name body) := by
  unfold framed
  split
  · funext s
    rw [Act.withFrame, Act.onRejection_eq, Act.onRejection_eq]
    rfl
  · rfl

/-- A part of what a group runs, and what that part turns to from a state. -/
structure Turn (ρ σ : Type) where
  run : Act σ Value
  answers : RunState σ → List (Answer ρ σ)

/-- Turns that are taken one after the other, with what each of them comes to, and all that they
turn to. -/
inductive InTurn : List (Turn ρ σ) → RunState σ → List (Except Fault Value) →
    List (Answer ρ σ) → RunState σ → Prop
  | nil (s : RunState σ) : InTurn [] s [] [] s
  | cons {turn : Turn ρ σ} {turns : List (Turn ρ σ)} {s s' s'' : RunState σ}
    {result : Except Fault Value} {results : List (Except Fault Value)}
    {asked : List (Answer ρ σ)} (ran : turn.run s = (result, s'))
    (rest : InTurn turns s' results asked s'') :
    InTurn (turn :: turns) s (result :: results) (turn.answers s ++ asked) s''

/-- Turns that succeed, with these outputs. -/
abbrev Succeeding (turns : List (Turn ρ σ)) (s : RunState σ) (outs : List Value)
    (asked : List (Answer ρ σ)) (s' : RunState σ) : Prop :=
  InTurn turns s (outs.map .ok) asked s'

/-- Turns that are all rejected, with these rejections. -/
abbrev Rejecting (turns : List (Turn ρ σ)) (s : RunState σ) (raised : List Rejection)
    (asked : List (Answer ρ σ)) (s' : RunState σ) : Prop :=
  InTurn turns s (raised.map fun r => .error (.rejected r)) asked s'

namespace InTurn

variable {turn : Turn ρ σ} {turns : List (Turn ρ σ)} {s s' : RunState σ}
  {asked : List (Answer ρ σ)} {ι : Type} {f : ι → Except Fault Value} {l : List ι}

theorem length_eq {results : List (Except Fault Value)} (h : InTurn turns s results asked s') :
    results.length = turns.length := by
  induction h with
  | nil => rfl
  | cons ran rest ih => rw [List.length_cons, List.length_cons, ih]

theorem nil_iff : InTurn ([] : List (Turn ρ σ)) s (l.map f) asked s' ↔
    l = [] ∧ asked = [] ∧ s = s' := by
  constructor
  · intro h
    cases l with
    | nil =>
      cases h
      exact ⟨rfl, rfl, rfl⟩
    | cons i rest => cases h
  · rintro ⟨rfl, rfl, rfl⟩
    exact .nil s

theorem cons_iff : InTurn (turn :: turns) s (l.map f) asked s' ↔
    ∃ i rest s₁ later, l = i :: rest ∧ turn.run s = (f i, s₁) ∧
      InTurn turns s₁ (rest.map f) later s' ∧ asked = turn.answers s ++ later := by
  constructor
  · intro h
    cases l with
    | nil => cases h
    | cons i rest =>
      rw [List.map_cons] at h
      cases h with
      | cons ran h => exact ⟨i, rest, _, _, rfl, ran, h, rfl⟩
  · rintro ⟨i, rest, s₁, later, rfl, ran, h, rfl⟩
    exact .cons ran h

/-- Turns may be exchanged for others that come to the same results. -/
theorem exchange {κ : Type} {t u : κ → Turn ρ σ} {keys : List κ}
    (same : ∀ k ∈ keys, (t k).answers = (u k).answers ∧ ∀ s i s',
      (t k).run s = (f i, s') → (u k).run s = (f i, s'))
    (h : InTurn (keys.map t) s (l.map f) asked s') :
    InTurn (keys.map u) s (l.map f) asked s' := by
  induction keys generalizing s l asked with
  | nil => exact h
  | cons k rest ih =>
    obtain ⟨⟨answers, run⟩, others⟩ := List.forall_mem_cons.mp same
    obtain ⟨i, l, s₁, later, rfl, ran, rest_, rfl⟩ := cons_iff.mp h
    exact cons_iff.mpr ⟨i, l, s₁, later, rfl, run _ _ _ ran, ih others rest_, by rw [answers]⟩

/-- From every state, either all turns come to such results, or one does not, behind others that
do. -/
theorem total {κ : Type} (f : ι → Except Fault Value) (t : κ → Turn ρ σ) (keys : List κ)
    (s : RunState σ) :
    (∃ l asked s', InTurn (keys.map t) s (List.map f l) asked s') ∨
    ∃ before key after l asked s₁ result s', keys = before ++ key :: after ∧
      InTurn (before.map t) s (List.map f l) asked s₁ ∧ (t key).run s₁ = (result, s') ∧
      ∀ i, result ≠ f i := by
  induction keys generalizing s with
  | nil => exact .inl ⟨[], [], s, .nil s⟩
  | cons key rest ih =>
    rcases ran : (t key).run s with ⟨result, s₁⟩
    by_cases such : ∃ i, result = f i
    · obtain ⟨i, rfl⟩ := such
      rcases ih s₁ with ⟨l, asked, s', h⟩ |
        ⟨before, other, after, l, asked, s₂, result, s', rfl, h, ended, not⟩
      · exact .inl ⟨i :: l, _, s', .cons ran h⟩
      · exact .inr ⟨key :: before, other, after, i :: l, _, s₂, result, s', rfl, .cons ran h, ended,
          not⟩
    · have not := not_exists.mp such
      exact .inr ⟨[], key, rest, [], [], s, result, s₁, rfl, .nil s, ran, not⟩

/-- From every state, either all turns succeed, or one fails behind turns that succeed. -/
theorem total_ok {κ : Type} (t : κ → Turn ρ σ) (keys : List κ) (s : RunState σ) :
    (∃ outs asked s', Succeeding (keys.map t) s outs asked s') ∨
    ∃ before key after outs asked s₁ fault s', keys = before ++ key :: after ∧
      Succeeding (before.map t) s outs asked s₁ ∧ (t key).run s₁ = (.error fault, s') := by
  refine (total .ok t keys s).imp_right ?_
  rintro ⟨before, key, after, outs, asked, s₁, result, s', cut, succeeded, ran, not⟩
  cases result with
  | ok out => exact absurd rfl (not out)
  | error fault => exact ⟨before, key, after, outs, asked, s₁, fault, s', cut, succeeded, ran⟩

end InTurn

namespace Plan

variable [Record ρ σ] {scope : Scope ρ} {place : List Nat} {s s₁ s' : RunState σ} {fault : Fault}
  {outs : List Value} {asked : List (Answer ρ σ)}

/-- To follow a plan. -/
def turn (plan : Plan ρ σ Value) (scope : Scope ρ) (place : List Nat) : Turn ρ σ where
  run := plan.run scope
  answers := plan.answers scope place

theorem element_run (i : Nat) (inner : Plan ρ σ Value) (scope : Scope ρ) (s : RunState σ) :
    (element i inner).run scope s =
      ((scope.framed ("[" ++ toString i ++ "]") (inner.run scope) s).1.mapError
          (Fault.mapRejection (·.inElement i)),
        (scope.framed ("[" ++ toString i ++ "]") (inner.run scope) s).2) := by
  rw [run, Scope.framed_onRejection, Act.onRejection_eq]

/-- Plans one after the other, with their outputs. -/
def sequence : List (Plan ρ σ Value) → Plan ρ σ (List Value)
  | [] => done []
  | plan :: rest =>
    andThen plan fun out => andThen (sequence rest) fun outs => done (out :: outs)

omit [Record ρ σ] in
theorem every_eq_sequence (v : Value) (branches : List (Value → Plan ρ σ Value)) :
    every v branches = sequence (branches.map (· v)) := by
  induction branches with
  | nil => rfl
  | cons branch rest ih => rw [every, ih, List.map_cons, sequence]

omit [Record ρ σ] in
theorem elements_eq_sequence (inner : Value → Plan ρ σ Value) (i : Nat) (items : List Value) :
    elements inner i items =
      sequence ((items.zipIdx i).map fun p => element p.2 (inner p.1)) := by
  induction items generalizing i with
  | nil => rfl
  | cons v rest ih => rw [elements, ih, List.zipIdx_cons, List.map_cons, sequence]

section Gather

variable {β γ : Type} {plan : Plan ρ σ β} (f : β → γ)

theorem gather_ok {b : β} (ran : plan.run scope s = (.ok b, s')) :
    (andThen plan fun b => done (f b)).run scope s = (.ok (f b), s') := by
  rw [andThen_run, ran]
  rfl

theorem gather_error (failed : plan.run scope s = (.error fault, s')) :
    (andThen plan fun b => done (f b)).run scope s = (.error fault, s') := by
  rw [andThen_run, failed]

theorem gather_answers :
    (andThen plan fun b => done (f b)).answers scope place s = plan.answers scope place s := by
  rw [answers_andThen]
  rcases plan.run scope s with ⟨raised | b, s₁⟩ <;> exact List.append_nil _

end Gather

/-- A sequence in which every turn succeeds yields the outputs. -/
theorem sequence_ok {plans : List (Plan ρ σ Value)}
    (h : Succeeding (plans.map (·.turn scope place)) s outs asked s') :
    (sequence plans).run scope s = (.ok outs, s') ∧
      (sequence plans).answers scope place s = asked := by
  induction plans generalizing s outs asked with
  | nil =>
    obtain ⟨rfl, rfl, rfl⟩ := InTurn.nil_iff.mp h
    exact ⟨rfl, rfl⟩
  | cons plan rest ih =>
    obtain ⟨out, outs, s₁, later, rfl, ran, succeeded, rfl⟩ := InTurn.cons_iff.mp h
    change plan.run scope s = _ at ran
    obtain ⟨run, answers⟩ := ih succeeded
    rw [sequence, andThen_run, answers_andThen, ran]
    exact ⟨gather_ok _ run, congrArg _ ((gather_answers _).trans answers)⟩

/-- A sequence fails with the first fault, and nothing behind it is turned to. -/
theorem sequence_error {before : List (Plan ρ σ Value)} {plan : Plan ρ σ Value}
    (after : List (Plan ρ σ Value))
    (h : Succeeding (before.map (·.turn scope place)) s outs asked s₁)
    (failed : plan.run scope s₁ = (.error fault, s')) :
    (sequence (before ++ plan :: after)).run scope s = (.error fault, s') ∧
      (sequence (before ++ plan :: after)).answers scope place s =
        asked ++ plan.answers scope place s₁ := by
  induction before generalizing s outs asked with
  | nil =>
    obtain ⟨-, rfl, rfl⟩ := InTurn.nil_iff.mp h
    rw [List.nil_append, sequence, andThen_run, answers_andThen, failed]
    exact ⟨rfl, List.append_nil _⟩
  | cons first rest ih =>
    obtain ⟨out, outs, s₂, later, rfl, ran, succeeded, rfl⟩ := InTurn.cons_iff.mp h
    change first.run scope s = _ at ran
    obtain ⟨run, answers⟩ := ih succeeded
    rw [List.cons_append, sequence, andThen_run, answers_andThen, ran, List.append_assoc]
    exact ⟨gather_error _ run, congrArg _ ((gather_answers _).trans answers)⟩

end Plan

/-- What a group runs on the elements of a collection is run on these. -/
def Value.elements? : Value → Option (List Value)
  | array items => some items
  | object fields => some (fields.map (·.2))
  | _ => none

/-- The collection with other elements, under the keys that it has. -/
def Value.refill (v : Value) (outs : List Value) : Value :=
  match v with
  | object fields => object ((fields.map (·.1)).zip outs)
  | _ => array outs

namespace Strategy

/-- Whether a group runs all its `n` children on one input and needs all their outputs. -/
def Gathers (n : Nat) : Strategy ρ σ → Prop
  | allOf | collect none => True
  | collect (some labels) => labels.length = n
  | _ => False

/-- What such a group makes of the outputs on `v`. -/
def gathered (strategy : Strategy ρ σ) (v : Value) (outs : List Value) : Value :=
  match strategy with
  | collect none => .array outs
  | collect (some labels) => .ofPairs (labels.zip outs)
  | _ => v

end Strategy

namespace Node

/-- The sub-chain of some nodes. -/
def chain (nodes : List (Node ρ σ)) : Node ρ σ :=
  .fresh "Chain" nodes .pipe

theorem plans_eq_map (nodes : List (Node ρ σ)) : plans nodes = nodes.map plan := by
  induction nodes with
  | nil => rfl
  | cons node rest ih => rw [plans, ih, List.map_cons]

variable [Record ρ σ]

theorem compile_run {node : Node ρ σ} (h : node.IsFresh) (v : Value) (scope : Scope ρ) :
    node.compile v scope = (node.plan v).run scope := by
  rw [compile_plan h]
  rfl

/-- A node that is fed runs on what it is fed with. -/
theorem wrap_fed {node : Node ρ σ} {feed : Callable ρ σ} {v input : Value} {scope : Scope ρ}
    {s t : RunState σ} (h : node.IsFresh) (fed : feed v scope s = (.ok input, t)) :
    node.wrap feed v scope s = node.compile input scope t := by
  rw [wrap_eq_andThen h, Callable.andThen_run, fed]

/-- To run a node on a value. -/
def turn (node : Node ρ σ) (v : Value) (scope : Scope ρ) : Turn ρ σ where
  run := node.compile v scope
  answers := node.answers v scope

/-- To run a node on an element and its position, under the frame of the element. -/
def elementTurn (node : Node ρ σ) (scope : Scope ρ) (element : Value × Nat) : Turn ρ σ where
  run := scope.framed ("[" ++ toString element.2 ++ "]") (node.compile element.1 scope)
  answers s := (node.plan element.1).answers scope [element.2]
    (scope.enter ("[" ++ toString element.2 ++ "]") s)

def elementTurns (node : Node ρ σ) (scope : Scope ρ) (items : List Value) : List (Turn ρ σ) :=
  items.zipIdx.map (node.elementTurn scope)

variable {name : String} {children : List (Node ρ σ)} {strategy : Strategy ρ σ} {v : Value}
  {items outs : List Value} {asked : List (Answer ρ σ)} {scope : Scope ρ}
  {s s₁ s' : RunState σ} {fault : Fault}

theorem turns_eq (h : AreFresh children) :
    children.map (·.turn v scope) =
      (children.map fun child => child.plan v).map (·.turn scope []) := by
  rw [List.map_map]
  refine List.map_congr_left fun child mem => ?_
  rw [turn, compile_run (areFresh_iff.mp h child mem)]
  rfl

omit [Record ρ σ] in
theorem plan_gathers (gathers : strategy.Gathers children.length) :
    (fresh name children strategy).plan v =
      .andThen (.sequence (children.map fun child => child.plan v))
        fun outs => .done (strategy.gathered v outs) := by
  have every : Plan.every v (plans children) =
      .sequence (children.map fun child => child.plan v) := by
    rw [Plan.every_eq_sequence, plans_eq_map, List.map_map]
    rfl
  cases strategy with
  | allOf => exact congrArg (Plan.andThen · _) every
  | collect labels =>
    cases labels with
    | none => exact congrArg (Plan.andThen · _) every
    | some labels =>
      have all : (plans children).take labels.length = plans children := by
        refine List.take_of_length_le (Nat.le_of_eq ?_)
        rw [plans_eq_map, List.length_map, gathers]
      change Plan.collect (some labels) (plans children) v = _
      rw [Plan.collect, all, every]
      rfl
  | _ => exact gathers.elim

theorem gathers_ok (h : AreFresh children) (gathers : strategy.Gathers children.length)
    (succeeded : Succeeding (children.map (·.turn v scope)) s outs asked s') :
    (fresh name children strategy).compile v scope s = (.ok (strategy.gathered v outs), s') ∧
      (fresh name children strategy).answers v scope s = asked := by
  rw [turns_eq h] at succeeded
  obtain ⟨run, answered⟩ := Plan.sequence_ok succeeded
  rw [compile_run (isFresh_fresh.mpr h), answers, plan_gathers gathers]
  exact ⟨Plan.gather_ok _ run, (Plan.gather_answers _).trans answered⟩

theorem gathers_error {before after : List (Node ρ σ)} {child : Node ρ σ}
    (h : AreFresh (before ++ child :: after))
    (gathers : strategy.Gathers (before ++ child :: after).length)
    (succeeded : Succeeding (before.map (·.turn v scope)) s outs asked s₁)
    (failed : child.compile v scope s₁ = (.error fault, s')) :
    (fresh name (before ++ child :: after) strategy).compile v scope s = (.error fault, s') ∧
      (fresh name (before ++ child :: after) strategy).answers v scope s =
        asked ++ child.answers v scope s₁ := by
  obtain ⟨first, rest⟩ := List.forall_mem_append.mp (areFresh_iff.mp h)
  rw [turns_eq (areFresh_iff.mpr first)] at succeeded
  rw [compile_run (rest child List.mem_cons_self)] at failed
  obtain ⟨run, answered⟩ :=
    Plan.sequence_error (after.map fun child => child.plan v) succeeded failed
  rw [compile_run (isFresh_fresh.mpr h), answers, plan_gathers gathers, List.map_append,
    List.map_cons]
  exact ⟨Plan.gather_error _ run, (Plan.gather_answers _).trans answered⟩

/-- What the group follows at an element. -/
def elementPlan (children : List (Node ρ σ)) (element : Value × Nat) : Plan ρ σ Value :=
  .element element.2 (planAll children element.1)

omit [Record ρ σ] in
theorem plan_each (collection : v.elements? = some items) :
    (fresh name children .each).plan v =
      .andThen (.sequence (items.zipIdx.map (elementPlan children)))
        fun outs => .done (v.refill outs) := by
  have elements := Plan.elements_eq_sequence (planAll children) 0 items
  cases v with
  | array | object =>
    cases collection
    exact congrArg (Plan.andThen · _) elements
  | _ => cases collection

theorem elementTurns_total (node : Node ρ σ) (scope : Scope ρ) (items : List Value)
    (s : RunState σ) :
    (∃ outs asked s', Succeeding (node.elementTurns scope items) s outs asked s') ∨
    ∃ done item rest outs asked s₁ fault s', items = done ++ item :: rest ∧
      Succeeding (node.elementTurns scope done) s outs asked s₁ ∧
      (node.elementTurn scope (item, done.length)).run s₁ = (.error fault, s') := by
  refine (InTurn.total_ok (node.elementTurn scope) items.zipIdx s).imp_right ?_
  rintro ⟨before, element, after, outs, asked, s₁, fault, s', cut, succeeded, failed⟩
  obtain ⟨done, others, rfl, rfl, behind⟩ := List.zipIdx_eq_append_iff.mp cut
  obtain ⟨item, rest, rfl, rfl, -⟩ := List.zipIdx_eq_cons_iff.mp behind.symm
  refine ⟨done, item, rest, outs, asked, s₁, fault, s', rfl, succeeded, ?_⟩
  rw [Nat.zero_add] at failed
  exact failed

theorem elementPlan_run (h : AreFresh children) (element : Value × Nat) (s : RunState σ) :
    (elementPlan children element).run scope s =
      ((((chain children).elementTurn scope element).run s).1.mapError
          (Fault.mapRejection (·.inElement element.2)),
        (((chain children).elementTurn scope element).run s).2) := by
  have inner : (chain children).IsFresh := isFresh_fresh.mpr h
  rw [elementPlan, Plan.element_run, elementTurn, compile_run inner]
  rfl

theorem elementTurns_ok (h : AreFresh children)
    (succeeded : Succeeding ((chain children).elementTurns scope items) s outs asked s') :
    Succeeding ((items.zipIdx.map (elementPlan children)).map (·.turn scope [])) s outs
      asked s' := by
  rw [List.map_map]
  refine InTurn.exchange (t := (chain children).elementTurn scope)
    (fun element _ => ⟨rfl, fun s out s' ran => ?_⟩) succeeded
  change (elementPlan children element).run scope s = _
  rw [elementPlan_run h, ran]
  rfl

theorem each_ok (h : AreFresh children) (collection : v.elements? = some items)
    (succeeded : Succeeding ((chain children).elementTurns scope items) s outs asked s') :
    (fresh name children .each).compile v scope s = (.ok (v.refill outs), s') ∧
      (fresh name children .each).answers v scope s = asked := by
  obtain ⟨run, answered⟩ := Plan.sequence_ok (elementTurns_ok h succeeded)
  rw [compile_run (isFresh_fresh.mpr h), answers, plan_each collection]
  exact ⟨Plan.gather_ok _ run, (Plan.gather_answers _).trans answered⟩

theorem each_error (h : AreFresh children) {done rest : List Value} {item : Value}
    (collection : v.elements? = some (done ++ item :: rest))
    (succeeded : Succeeding ((chain children).elementTurns scope done) s outs asked s₁)
    (failed : ((chain children).elementTurn scope (item, done.length)).run s₁ =
      (.error fault, s')) :
    (fresh name children .each).compile v scope s =
        (.error (fault.mapRejection (·.inElement done.length)), s') ∧
      (fresh name children .each).answers v scope s =
        asked ++ ((chain children).elementTurn scope (item, done.length)).answers s₁ := by
  have ended : (elementPlan children (item, done.length)).run scope s₁ =
      (.error (fault.mapRejection (·.inElement done.length)), s') := by
    rw [elementPlan_run h, failed]
    rfl
  obtain ⟨run, answered⟩ := Plan.sequence_error
    ((rest.zipIdx (done.length + 1)).map (elementPlan children)) (elementTurns_ok h succeeded) ended
  rw [compile_run (isFresh_fresh.mpr h), answers, plan_each collection, List.zipIdx_append,
    List.zipIdx_cons, Nat.zero_add, List.map_append, List.map_cons]
  exact ⟨Plan.gather_error _ run, (Plan.gather_answers _).trans answered⟩

end Node

end FieldPipeline
