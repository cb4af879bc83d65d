import FieldPipeline.Proofs.Descent

namespace FieldPipeline

variable {ρ σ : Type}

/-- The same collection with other elements: a list of that length, or an object with those keys. -/
inductive Value.Refilled : Value → List Value → Value → Prop
  | array {items outs : List Value} (length : outs.length = items.length) :
    Refilled (.array items) outs (.array outs)
  | object {fields fields' : List (String × Value)} {outs : List Value}
    (keys : fields'.map (·.1) = fields.map (·.1)) (values : fields'.map (·.2) = outs) :
    Refilled (.object fields) outs (.object fields')

theorem Value.refilled_refill {v : Value} {items outs : List Value}
    (collection : v.elements? = some items) (length : outs.length = items.length) :
    v.Refilled outs (v.refill outs) := by
  cases v with
  | array items =>
    cases collection
    exact .array length
  | object fields =>
    cases collection
    have fits : (fields.map (·.1)).length = outs.length := by
      rw [length, List.length_map, List.length_map]
    exact .object (List.map_fst_zip (Nat.le_of_eq fits)) (List.map_snd_zip (Nat.le_of_eq fits.symm))
  | _ => cases collection

/-- What is raised for a value that has no elements. -/
def Rejection.scalar (scope : Scope ρ) (frames : List String) (v : Value) : Rejection where
  template := "chain.each.not_iterable"
  params := [("type", .string v.kind)]
  origin := some "Each"
  path := if scope.tracePaths then some (frames ++ ["Each"]) else none

variable [Record ρ σ]

namespace Node

/-- Without elements the sub-chain is not run. -/
theorem each_scalar {name : String} {children : List (Node ρ σ)} (h : AreFresh children)
    {v : Value} {scope : Scope ρ} {s : RunState σ} (scalar : v.elements? = none) :
    (fresh name children .each).compile v scope s =
        (.error (.rejected (.scalar scope s.trace.frames v)), s) ∧
      ∀ answer ∈ (fresh name children .each).answers v scope s,
        ∃ r, answer.site = .refusal "Each" r := by
  have planned : (fresh name children .each).plan v = .ask (.refusal "Each"
      (({ template := Rejection.notIterable } : Rejection).addParam "type" (.string v.kind))) := by
    cases v with
    | array | object => cases scalar
    | _ => rfl
  rw [compile_run (isFresh_fresh.mpr h), answers, planned]
  constructor
  · change scope.reject _ _ s = _
    rw [Scope.reject, Scope.enrich, Rejection.scalar]
    split <;> rfl
  · intro answer mem
    cases List.mem_singleton.mp mem
    exact ⟨_, rfl⟩

/-- Wherever a group for elements stands in a compiled pipeline, and whatever it is fed with: the
sub-chain runs on the elements of a list, or on the values of an object, one after the other. If all
runs succeed, the group yields the same collection with their outputs; if one fails, the group fails
with its fault, or with its rejection at the position of the element, and no element behind it is
run. A value without elements is rejected, and the sub-chain is not run. A rejection that comes out
of elements inside elements, with no group between that deals with rejections, has the positions of
all of them before those that it was raised with, the outermost first. -/
theorem each_in_order {root : Node ρ σ} (built : root.Built) {name : String}
    {children : List (Node ρ σ)} {made : Option (Callable ρ σ)}
    (part : .composite name children .each made ∈ root.parts) {feed : Callable ρ σ}
    {v input : Value} {scope : Scope ρ} {s t : RunState σ}
    (fed : feed v scope s = (.ok input, t)) :
    let group : Node ρ σ := .composite name children .each made
    (∀ items, input.elements? = some items →
      (∀ outs asked s',
        Succeeding ((chain children).elementTurns scope items) t outs asked s' →
        group.answers input scope t = asked ∧
          ∃ out, group.wrap feed v scope s = (.ok out, s') ∧ input.Refilled outs out) ∧
      (∀ done item rest outs asked t' fault s', items = done ++ item :: rest →
        Succeeding ((chain children).elementTurns scope done) t outs asked t' →
        ((chain children).elementTurn scope (item, done.length)).run t' = (.error fault, s') →
        group.answers input scope t =
            asked ++ ((chain children).elementTurn scope (item, done.length)).answers t' ∧
          group.wrap feed v scope s =
            (.error (fault.mapRejection (·.inElement done.length)), s')) ∧
      ((∃ outs asked s', Succeeding ((chain children).elementTurns scope items) t outs asked s') ∨
        ∃ done item rest outs asked t' fault s', items = done ++ item :: rest ∧
          Succeeding ((chain children).elementTurns scope done) t outs asked t' ∧
          ((chain children).elementTurn scope (item, done.length)).run t' =
            (.error fault, s'))) ∧
    (input.elements? = none →
      group.wrap feed v scope s = (.error (.rejected (.scalar scope t.trace.frames input)), t) ∧
        ∀ answer ∈ group.answers input scope t, ∃ r, answer.site = .refusal "Each" r) ∧
    ∀ node ∈ root.parts, ∀ value start layers inner x u raised u',
      node.Descends scope value start layers inner x u →
      inner.compile x scope u = (.error (.rejected raised), u') →
      ∃ left s', node.compile value scope start = (.error (.rejected left), s') ∧
        left.indices = Layer.positions layers ++ raised.indices := by
  intro group
  obtain ⟨rfl, fresh_⟩ := built.composite part
  have runs : group.wrap feed v scope s = (fresh name children .each).compile input scope t :=
    wrap_fed (isFresh_fresh.mpr fresh_) fed
  refine ⟨fun items collection => ⟨?_, ?_, elementTurns_total _ scope items t⟩, ?_, ?_⟩
  · intro outs asked s' succeeded
    have length := succeeded.length_eq
    rw [List.length_map, elementTurns, List.length_map, List.length_zipIdx] at length
    obtain ⟨run, answered⟩ := each_ok fresh_ collection succeeded
    exact ⟨answered, _, runs.trans run, Value.refilled_refill collection length⟩
  · rintro done item rest outs asked t' fault s' rfl succeeded failed
    obtain ⟨run, answered⟩ := each_error fresh_ collection succeeded failed
    exact ⟨answered, runs.trans run⟩
  · intro scalar
    obtain ⟨run, answered⟩ := each_scalar fresh_ scalar
    exact ⟨runs.trans run, answered⟩
  · intro node inside value start layers inner x u raised u' descends failed
    obtain ⟨s', ended, -⟩ :=
      descends.error (isFresh_of_mem_parts built.isFresh node inside) failed
    exact ⟨_, s', ended, by rw [Layer.passAll_eq]⟩

/-- A list whose second element is a list that fails at its first element. -/
theorem each_in_order_nested :
    let grumble : Transformer Scripted.Form Scripted.Desk :=
      { name := "Grumble", apply := fun _ _ _ => throw (.rejected { template := "bad" }) }
    let ds : List (Declaration Scripted.Form Scripted.Desk) :=
      [.group (.each none), .group (.each none), .node { identity := .given "g" grumble }]
    let scope : Scope Scripted.Form :=
      { record := {}, context := .null, direction := .inbound, tracePaths := false }
    let v : Value := .array [.array [], .array [.null]]
    ∃ root q' w' left s',
      Chain.compile {} ⟨ds, 0⟩ {} .inbound .all { run := { app := {} } } = ((.ok root, q'), w') ∧
      root.compile v scope { app := {} } = (.error (.rejected left), s') ∧
      left.indices = [1, 0] ∧
      ∃ outer ∈ root.parts, ∃ inner : Fault,
        outer.wrap .identity v scope { app := {} } =
          (.error (inner.mapRejection (·.inElement 1)), { app := {} }) := by
  intro grumble ds scope v
  obtain ⟨l, w₁, resolved, runs⟩ : ∃ l w₁,
      Resolver.resolve {} (.node { identity := .given "g" grumble }) ({} : Scripted.Form)
        { run := { app := {} } } = (.ok l, w₁) ∧
      l.step.run = Callable.asNode "Grumble" fun v scope => grumble.apply v [] scope :=
    ⟨_, _, rfl, rfl⟩
  have innermost : Chain.Compiles {} ({} : Scripted.Form) .inbound .all 0 [] (ds.drop 2)
      { run := { app := {} } } [.leaf l] _ w₁ :=
    .node nofun resolved (.atEnd 1 _ _)
  have inside : Chain.Compiles {} ({} : Scripted.Form) .inbound .all 0 [] (ds.drop 1)
      { run := { app := {} } } [.fresh "Each" [.leaf l] .each] _ w₁ :=
    .active nofun rfl rfl innermost rfl (.atEnd 1 _ _)
  have walk : Chain.Compiles {} ({} : Scripted.Form) .inbound .all 0 [] ds
      { run := { app := {} } } [.fresh "Each" [.fresh "Each" [.leaf l] .each] .each] _ w₁ :=
    .active nofun rfl rfl inside rfl (.atEnd 1 _ _)
  let outer : Node Scripted.Form Scripted.Desk :=
    .fresh "Each" [.fresh "Each" [.leaf l] .each] .each
  have compiled : Chain.compile {} ⟨ds, 0⟩ ({} : Scripted.Form) .inbound .all
      { run := { app := {} } } = ((.ok (chain [outer]), _), w₁) :=
    Chain.compile_eq_ok.mpr ⟨[_], _, walk, rfl, rfl⟩
  have built : (chain [outer]).Built := ⟨_, _, _, _, _, _, _, _, compiled⟩
  have part : outer ∈ (chain [outer]).parts := by
    simp [chain, outer, fresh, parts, partsOf]
  have fed : Callable.identity v scope ({ app := {} } : RunState Scripted.Desk) =
      (.ok v, { app := {} }) := rfl
  obtain ⟨groups, -, nested⟩ := each_in_order built part fed
  -- The first element is an empty list, at which the inner group succeeds.
  have first : Succeeding ((chain [.fresh "Each" [.leaf l] .each]).elementTurns scope [.array []])
      ({ app := {} } : RunState Scripted.Desk) [.array []] [] { app := {} } :=
    .cons rfl (.nil _)
  have bad : l.step.run .null scope ({ app := {} } : RunState Scripted.Desk) =
      (.error (.rejected { template := "bad", origin := some "Grumble" }), { app := {} }) := by
    rw [runs]
    rfl
  have second : ((chain [.fresh "Each" [.leaf l] .each]).elementTurn scope (.array [.null], 1)).run
      ({ app := {} } : RunState Scripted.Desk) = (.error (.rejected
        { template := "bad", origin := some "Grumble", indices := [0] }), { app := {} }) := by
    change Strategy.runEach l.step.run (.array [.null]) scope { app := {} } = _
    rw [runs]
    rfl
  have inward : (fresh "Each" [.leaf l] .each).Descends scope (.array [.null]) { app := {} }
      [.element 0] (.leaf l) .null { app := {} } :=
    .firstElement rfl (.head (.here ..))
  have descends : (chain [outer]).Descends scope v { app := {} } [.element 1, .element 0]
      (.leaf l) .null { app := {} } :=
    .head (.element rfl first (.head inward))
  obtain ⟨left, s', ended, places⟩ := nested _ (mem_parts_self _) _ _ _ _ _ _ _ _ descends bad
  have stopped := ((groups _ rfl).2.1 _ _ [] _ _ _ _ _ rfl first second).2
  exact ⟨_, _, _, left, s', compiled, ended, places, outer, part, _, stopped⟩

end Node

end FieldPipeline
