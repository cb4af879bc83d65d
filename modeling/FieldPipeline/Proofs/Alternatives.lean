import FieldPipeline.Proofs.Descent

namespace FieldPipeline

variable {ρ σ : Type}

/-- What is raised when all of several attempts were rejected. -/
def Rejection.aggregate (scope : Scope ρ) (frames : List String) (failures : List Rejection) :
    Rejection where
  template := "chain.any_failed"
  params :=
    [("attempts", .ofNat failures.length),
      ("failed", .array (failures.map fun r => .string r.template))]
  debug := none
  origin := some "Any"
  path := if scope.tracePaths then some (frames ++ ["Any"]) else none
  indices := []
  property := none
  overridden := false

theorem Rejection.allFailed_eq (attempts : Nat) (failures : List Rejection) :
    allFailed attempts failures =
      { template := "chain.any_failed"
        params := [("attempts", .ofNat attempts),
          ("failed", .array (failures.map fun r => .string r.template))] } := by
  have sorted (attempts failed : Value) : putSorted "failed" failed [("attempts", attempts)] =
      [("attempts", attempts), ("failed", failed)] := by
    have apart : "failed" ≠ "attempts" := by decide
    have behind : ¬ "failed" < "attempts" := by decide
    rw [putSorted, if_neg apart, if_neg behind, putSorted]
  exact congrArg (fun params => ({ template := anyFailed, params } : Rejection)) (sorted _ _)

theorem Scope.reject_allFailed (scope : Scope ρ) (failures : List Rejection) (s : RunState σ) :
    (scope.reject "Any" (.allFailed failures.length failures) : Act σ Value) s =
      (.error (.rejected (.aggregate scope s.trace.frames failures)), s) := by
  rw [reject, enrich, Rejection.allFailed_eq, Rejection.aggregate]
  split <;> rfl

variable [Record ρ σ]

namespace Plan

variable {v : Value} {scope : Scope ρ} {place : List Nat} {s s₁ s' : RunState σ}
  {raised : List Rejection} {asked : List (Answer ρ σ)}

/-- The first branch that is not rejected decides, and nothing behind it is turned to. -/
theorem firstOf_decided (attempts : Nat) (failures : List Rejection)
    {before : List (Value → Plan ρ σ Value)} {branch : Value → Plan ρ σ Value}
    (after : List (Value → Plan ρ σ Value)) {result : Except Fault Value}
    (rejected : Rejecting (before.map fun other => (other v).turn scope place) s raised asked s₁)
    (ran : (branch v).run scope s₁ = (result, s')) (decided : ∀ r, result ≠ .error (.rejected r)) :
    (firstOf v attempts failures (before ++ branch :: after)).run scope s = (result, s') ∧
      (firstOf v attempts failures (before ++ branch :: after)).answers scope place s =
        asked ++ (branch v).answers scope place s₁ := by
  induction before generalizing s raised asked failures with
  | nil =>
    obtain ⟨-, rfl, rfl⟩ := InTurn.nil_iff.mp rejected
    rw [List.nil_append, firstOf, run, Act.orElseRejected, answers_orElse, ran]
    -- Only a rejection would lead on to the branches behind this one.
    rcases result with (_ | r | _ | _) | out
    case error.rejected => exact absurd rfl (decided r)
    all_goals exact ⟨rfl, List.append_nil _⟩
  | cons first rest ih =>
    obtain ⟨r, raised, s₂, later, rfl, refused, others, rfl⟩ := InTurn.cons_iff.mp rejected
    change (first v).run scope s = _ at refused
    rw [List.cons_append, firstOf, run, Act.orElseRejected, answers_orElse, refused,
      List.append_assoc]
    exact ⟨(ih _ others).1, congrArg _ (ih _ others).2⟩

/-- If every branch is rejected, the group refuses the value itself. -/
theorem firstOf_rejected (attempts : Nat) (failures : List Rejection)
    {branches : List (Value → Plan ρ σ Value)}
    (rejected : Rejecting (branches.map fun branch => (branch v).turn scope place) s raised asked
      s') :
    let refusal : Site ρ σ := .refusal "Any" (.allFailed attempts (failures.reverse ++ raised))
    (firstOf v attempts failures branches).run scope s = refusal.run scope s' ∧
      (firstOf v attempts failures branches).answers scope place s =
        asked ++ (ask refusal).answers scope place s' := by
  induction branches generalizing s raised asked failures with
  | nil =>
    obtain ⟨rfl, rfl, rfl⟩ := InTurn.nil_iff.mp rejected
    rw [List.append_nil]
    exact ⟨rfl, rfl⟩
  | cons first rest ih =>
    obtain ⟨r, raised, s₂, later, rfl, refused, others, rfl⟩ := InTurn.cons_iff.mp rejected
    change (first v).run scope s = _ at refused
    have moved : failures.reverse ++ r :: raised = (r :: failures).reverse ++ raised := by simp
    rw [firstOf, run, Act.orElseRejected, answers_orElse, refused, moved]
    dsimp only
    rw [List.append_assoc]
    exact ⟨(ih _ others).1, congrArg _ (ih _ others).2⟩

end Plan

namespace Node

variable {name : String} {children : List (Node ρ σ)} {v : Value} {scope : Scope ρ}
  {s s₁ s' : RunState σ} {raised : List Rejection} {asked : List (Answer ρ σ)}

omit [Record ρ σ] in
theorem plan_any (branches : children ≠ []) :
    (fresh name children .firstSuccess).plan v =
      .firstOf v children.length [] (children.map plan) := by
  have some_ : (children.map plan).isEmpty = false := by simpa using branches
  change Plan.firstSuccess (plans children) v = _
  rw [plans_eq_map, Plan.firstSuccess, some_, List.length_map]
  rfl

theorem branch_turns (h : AreFresh children) :
    children.map (·.turn v scope) =
      (children.map plan).map fun branch => (branch v).turn scope [] := by
  rw [turns_eq h, List.map_map, List.map_map]
  rfl

/-- The first branch that is not rejected decides, and nothing behind it is run. -/
theorem any_decided {before after : List (Node ρ σ)} {child : Node ρ σ}
    {result : Except Fault Value} (h : AreFresh (before ++ child :: after))
    (rejected : Rejecting (before.map (·.turn v scope)) s raised asked s₁)
    (ran : child.compile v scope s₁ = (result, s')) (decided : ∀ r, result ≠ .error (.rejected r)) :
    (fresh name (before ++ child :: after) .firstSuccess).compile v scope s = (result, s') ∧
      (fresh name (before ++ child :: after) .firstSuccess).answers v scope s =
        asked ++ child.answers v scope s₁ := by
  obtain ⟨first, rest⟩ := List.forall_mem_append.mp (areFresh_iff.mp h)
  have branches : before ++ child :: after ≠ [] := by simp
  rw [branch_turns (areFresh_iff.mpr first)] at rejected
  rw [compile_run (rest child List.mem_cons_self)] at ran
  rw [compile_run (isFresh_fresh.mpr h), answers, plan_any branches, List.map_append, List.map_cons]
  exact Plan.firstOf_decided _ [] (after.map plan) rejected ran decided

/-- If every branch is rejected, the group raises a rejection of its own. -/
theorem any_rejected (h : AreFresh children) (branches : children ≠ [])
    (rejected : Rejecting (children.map (·.turn v scope)) s raised asked s') :
    (fresh name children .firstSuccess).compile v scope s =
        (.error (.rejected (.aggregate scope s'.trace.frames raised)), s') ∧
      ∃ refusal : Answer ρ σ, refusal.site = .refusal "Any" (.allFailed raised.length raised) ∧
        (fresh name children .firstSuccess).answers v scope s = asked ++ [refusal] := by
  have length : raised.length = children.length := by simpa using rejected.length_eq
  rw [branch_turns h] at rejected
  obtain ⟨ended, answered⟩ := Plan.firstOf_rejected children.length [] rejected
  rw [compile_run (isFresh_fresh.mpr h), answers, plan_any branches, ended, answered, ← length]
  exact ⟨scope.reject_allFailed raised s', _, rfl, rfl⟩

/-- Wherever a group of alternatives stands in a compiled pipeline, and whatever it is fed with: its
branches run on that value, one after the other, until one is not rejected; the group comes to what
that branch comes to, and no branch behind it is run. If all are rejected, the group raises a new
rejection with the number of the branches and their templates, as the branches let them out. On its
way out this rejection gets the positions of the elements around the group and perhaps another
template, and a protected sub-chain that it leaves gives way to the fallback. -/
theorem first_success {root : Node ρ σ} (built : root.Built)
    {made : Option (Callable ρ σ)} (part : .composite name children .firstSuccess made ∈ root.parts)
    (branches : children ≠ []) {feed : Callable ρ σ} {input : Value} {t : RunState σ}
    (fed : feed v scope s = (.ok input, t)) :
    let group : Node ρ σ := .composite name children .firstSuccess made
    (∀ before child after raised asked t' result s', children = before ++ child :: after →
      Rejecting (before.map (·.turn input scope)) t raised asked t' →
      child.compile input scope t' = (result, s') → (∀ r, result ≠ .error (.rejected r)) →
      group.wrap feed v scope s = (result, s') ∧
        group.answers input scope t = asked ++ child.answers input scope t') ∧
    (∀ raised asked s', Rejecting (children.map (·.turn input scope)) t raised asked s' →
      raised.length = children.length ∧
      group.wrap feed v scope s =
        (.error (.rejected (.aggregate scope s'.trace.frames raised)), s') ∧
      ∃ refusal : Answer ρ σ, refusal.site = .refusal "Any" (.allFailed raised.length raised) ∧
        group.answers input scope t = asked ++ [refusal]) ∧
    ((∃ raised asked s', Rejecting (children.map (·.turn input scope)) t raised asked s') ∨
      ∃ before child after raised asked t' result s', children = before ++ child :: after ∧
        Rejecting (before.map (·.turn input scope)) t raised asked t' ∧
        child.compile input scope t' = (result, s') ∧ ∀ r, result ≠ .error (.rejected r)) ∧
    ∀ raised asked t', Rejecting (children.map (·.turn input scope)) t raised asked t' →
      ∀ layers : List Layer,
        let aggregate := Rejection.aggregate scope t'.trace.frames raised
        let left : Rejection :=
          { aggregate with
            template := (Layer.rewrite? layers aggregate).getD "chain.any_failed"
            overridden := (Layer.rewrite? layers aggregate).isSome
            indices := Layer.positions layers }
        (∀ node ∈ root.parts, ∀ value start,
          node.Descends scope value start layers group input t →
          ∃ s', node.compile value scope start = (.error (.rejected left), s') ∧
            s'.app = t'.app) ∧
        ∀ label inner fallback handler made',
          let protection : Node ρ σ := .composite label inner (.recover fallback handler) made'
          protection ∈ root.parts →
          ∀ value start, (chain inner).Descends scope value start layers group input t →
          ∃ s', protection.compile value scope start =
              Strategy.fallbackFor fallback handler value scope left s' ∧ s'.app = t'.app := by
  intro group
  obtain ⟨rfl, fresh_⟩ := built.composite part
  have runs : group.wrap feed v scope s =
      (fresh name children .firstSuccess).compile input scope t :=
    wrap_fed (isFresh_fresh.mpr fresh_) fed
  refine ⟨?_, ?_, ?_, ?_⟩
  · rintro before child after raised asked t' result s' rfl rejected ran decided
    obtain ⟨ended, answered⟩ := any_decided fresh_ rejected ran decided
    exact ⟨runs.trans ended, answered⟩
  · intro raised asked s' rejected
    have length : raised.length = children.length := by simpa using rejected.length_eq
    obtain ⟨ended, refusal, site, answered⟩ := any_rejected fresh_ branches rejected
    exact ⟨length, runs.trans ended, refusal, site, answered⟩
  · exact InTurn.total (fun r => .error (.rejected r))
      (fun child : Node ρ σ => child.turn input scope) children t
  · intro raised asked t' rejected layers aggregate left
    have ended : group.compile input scope t = (.error (.rejected aggregate), t') :=
      (any_rejected fresh_ branches rejected).1
    have passed : Layer.passAll layers aggregate = left := by
      rw [Layer.passAll_eq]
      simp [left, aggregate, Rejection.aggregate]
    have leaves {node : Node ρ σ} (nodeFresh : node.IsFresh) {value : Value} {start : RunState σ}
        (descends : node.Descends scope value start layers group input t) :
        ∃ s', node.compile value scope start = (.error (.rejected left), s') ∧ s'.app = t'.app := by
      rw [← passed]
      exact descends.error nodeFresh ended
    refine ⟨fun node mem value start => leaves (isFresh_of_mem_parts built.isFresh node mem), ?_⟩
    intro label inner fallback handler made' protection mem value start descends
    obtain ⟨rfl, innerFresh⟩ := built.composite mem
    obtain ⟨s', failed, app⟩ := leaves (isFresh_fresh.mpr innerFresh) descends
    exact ⟨s', recover_rejected fallback handler failed, app⟩

/-- An element for which two branches are rejected, the second of them inside an error template. -/
theorem first_success_rejected :
    let grumble : Transformer Scripted.Form Scripted.Desk :=
      { name := "Grumble", apply := fun _ _ _ => throw (.rejected { template := "bad" }) }
    let ds : List (Declaration Scripted.Form Scripted.Desk) :=
      [.group (.each none), .group (.any (some 2)), .node { identity := .given "g" grumble },
        .group (.errorTemplate (some "worse") [] (some 1)),
        .node { identity := .given "g" grumble }]
    let scope : Scope Scripted.Form :=
      { record := {}, context := .null, direction := .inbound, tracePaths := false }
    ∃ root q' w' left s',
      Chain.compile {} ⟨ds, 0⟩ {} .inbound .all { run := { app := {} } } = ((.ok root, q'), w') ∧
      root.compile (.array [.null]) scope { app := {} } = (.error (.rejected left), s') ∧
      left.template = "chain.any_failed" ∧ left.indices = [0] ∧ left.overridden = false ∧
      left.params =
        [("attempts", .ofNat 2), ("failed", .array [.string "bad", .string "worse"])] := by
  intro grumble ds scope
  obtain ⟨l, w₁, resolved, runs⟩ : ∃ l w₁,
      Resolver.resolve {} (.node { identity := .given "g" grumble }) ({} : Scripted.Form)
        { run := { app := {} } } = (.ok l, w₁) ∧
      l.step.run = Callable.asNode "Grumble" fun v scope => grumble.apply v [] scope :=
    ⟨_, _, rfl, rfl⟩
  obtain ⟨m, w₂, resolved', runs'⟩ : ∃ m w₂,
      Resolver.resolve {} (.node { identity := .given "g" grumble }) ({} : Scripted.Form) w₁ =
        (.ok m, w₂) ∧
      m.step.run = Callable.asNode "Grumble" fun v scope => grumble.apply v [] scope := by
    cases resolved
    exact ⟨_, _, rfl, rfl⟩
  let worse : Node Scripted.Form Scripted.Desk :=
    .fresh "ErrorTemplate" [.leaf m] (.replaceTemplate (some "worse") [])
  let group : Node Scripted.Form Scripted.Desk := .fresh "Any" [.leaf l, worse] .firstSuccess
  have inside : Chain.Compiles {} ({} : Scripted.Form) .inbound (.exactly 1) 0 [] (ds.drop 4) w₁
      [.leaf m] _ w₂ :=
    .node (by decide) resolved' (.full 1 _ _ _)
  have branches : Chain.Compiles {} ({} : Scripted.Form) .inbound (.exactly 2) 0 [] (ds.drop 2)
      { run := { app := {} } } [worse, .leaf l] _ w₂ :=
    .node (by decide) resolved (.active (by decide) rfl rfl inside rfl (.full 2 _ _ _))
  have elements : Chain.Compiles {} ({} : Scripted.Form) .inbound .all 0 [] (ds.drop 1)
      { run := { app := {} } } [group] _ w₂ :=
    .active nofun rfl rfl branches rfl (.atEnd 1 _ _)
  have walk : Chain.Compiles {} ({} : Scripted.Form) .inbound .all 0 [] ds
      { run := { app := {} } } [.fresh "Each" [group] .each] _ w₂ :=
    .active nofun rfl rfl elements rfl (.atEnd 1 _ _)
  let root : Node Scripted.Form Scripted.Desk := chain [.fresh "Each" [group] .each]
  have compiled : Chain.compile {} ⟨ds, 0⟩ ({} : Scripted.Form) .inbound .all
      { run := { app := {} } } = ((.ok root, _), w₂) :=
    Chain.compile_eq_ok.mpr ⟨[_], _, walk, rfl, rfl⟩
  have built : root.Built := ⟨_, _, _, _, _, _, _, _, compiled⟩
  have part : group ∈ root.parts := by
    simp [root, chain, group, fresh, parts, partsOf]
  have fed : Callable.identity .null scope ({ app := {} } : RunState Scripted.Desk) =
      (.ok .null, { app := {} }) := rfl
  obtain ⟨-, -, -, enclosed⟩ := first_success built part (by simp) fed
  let bad : Rejection := { template := "bad", origin := some "Grumble" }
  have first : (Node.leaf l).compile .null scope ({ app := {} } : RunState Scripted.Desk) =
      (.error (.rejected bad), { app := {} }) := by
    change l.step.run .null scope _ = _
    rw [runs]
    rfl
  have second : worse.compile .null scope ({ app := {} } : RunState Scripted.Desk) =
      (.error (.rejected { bad with template := "worse", overridden := true }), { app := {} }) := by
    change Strategy.runReplaceTemplate (some "worse") [] m.step.run .null scope _ = _
    rw [runs']
    rfl
  have rejected : Rejecting ([.leaf l, worse].map (·.turn .null scope)) { app := {} }
      [bad, { bad with template := "worse", overridden := true }] _ { app := {} } :=
    .cons first (.cons second (.nil _))
  have descends : root.Descends scope (.array [.null]) { app := {} } [.element 0] group .null
      { app := {} } :=
    .head (.firstElement rfl (.head (.here ..)))
  obtain ⟨leaves, -⟩ := enclosed _ _ _ rejected [.element 0]
  obtain ⟨s', ended, -⟩ := leaves root (mem_parts_self _) _ _ descends
  exact ⟨root, _, _, _, s', compiled, ended, rfl, rfl, rfl, rfl⟩

end Node

end FieldPipeline
