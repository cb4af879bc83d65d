import FieldPipeline.Proofs.Answers
import FieldPipeline.Proofs.Supply
import FieldPipeline.Scripted.Form

namespace FieldPipeline

variable {ρ σ : Type}

namespace Rejection

/-- A rejection that names its origin and, while paths are traced, its path. -/
structure Named (scope : Scope ρ) (r : Rejection) : Prop where
  origin : r.origin.isSome = true
  path : scope.tracePaths = true → r.path.isSome = true

theorem named_enrich (scope : Scope ρ) (node : String) (path : List String) (r : Rejection) :
    (scope.enrich node path r).Named scope := by
  unfold Scope.enrich
  split
  · exact ⟨rfl, fun _ => rfl⟩
  · next untraced => exact ⟨rfl, fun traced => absurd traced untraced⟩

/-- Neither the positions of elements nor another template make a rejection named. -/
theorem Relays.named_iff {r raised : Rejection} {inner : List Nat} (h : r.Relays raised inner)
    (scope : Scope ρ) : r.Named scope ↔ raised.Named scope := by
  constructor
  · rintro ⟨origin, path⟩
    exact ⟨h.origin ▸ origin, fun traced => h.path ▸ path traced⟩
  · rintro ⟨origin, path⟩
    exact ⟨h.origin.symm ▸ origin, fun traced => h.path.symm ▸ path traced⟩

end Rejection

theorem Callable.asNode_named {name : String} {body : Callable ρ σ} {v : Value} {scope : Scope ρ}
    {s : RunState σ} {r : Rejection}
    (ran : (body.asNode name v scope s).1 = .error (.rejected r)) : r.Named scope := by
  rw [asNode, Scope.framed_fst, Act.onRejection_rejected] at ran
  obtain ⟨raised, -, rfl⟩ := ran
  exact raised.named_enrich scope name _

/-- A site of the application that runs without a name. -/
def Site.isHandler : Site ρ σ → Bool
  | handler .. => true
  | _ => false

section Run

variable [Record ρ σ]

/-- Everything that a pipeline turns to names what it rejects, unless it is a failure handler. -/
theorem Site.rejected_named {site : Site ρ σ} (does : site.Does fun _ => True)
    (unhandled : site.isHandler = false) {scope : Scope ρ} {s : RunState σ} {r : Rejection}
    (ran : (site.run scope s).1 = .error (.rejected r)) : r.Named scope := by
  cases site with
  | leaf l v =>
    obtain ⟨name, body, runs, -⟩ := does
    rw [run, runs] at ran
    exact Callable.asNode_named ran
  | predicate run v =>
    obtain ⟨name, body, rfl, -⟩ := does
    exact Callable.asNode_named ran
  | handler fallback h v caught => cases unhandled
  | refusal node raised =>
    cases ran
    exact raised.named_enrich scope node _

/-- While the steps in the cache run as nodes, a rejection that leaves a pipeline is named or was
raised by a failure handler, which did not name it; the cache stays like that. -/
theorem Chain.rejection_named {r : Resolver ρ σ} {q q' : Queue ρ σ} {owner : ρ}
    {direction : Direction} {take : Take} {root : Node ρ σ} {w w' : Workspace ρ σ}
    (built : compile r q owner direction take w = ((.ok root, q'), w'))
    (nodes : w.cache.Holds (fun _ => True) fun _ => True) :
    w'.cache.Holds (fun _ => True) (fun _ => True) ∧
    ∀ v scope s e s', root.compile v scope s = (.error (.rejected e), s') →
      e.Named scope ∨
        ∃ answer ∈ root.answers v scope s, ∃ raised,
          answer.site.isHandler = true ∧ answer.result = .error (.rejected raised) ∧
            ¬ raised.Named scope ∧ e.Relays raised answer.place := by
  -- Here it does not matter what is supplied, only that it runs as nodes.
  have refers (d) (_ : d ∈ q.rest) :
      Refers (.supply (fun _ => True) fun _ => True) r owner d :=
    fun need _ => ⟨r.supplies_growth owner w.cache need, fun _ _ => trivial⟩
  obtain ⟨kept, made⟩ := keeps_compile refers direction take nodes
  rw [built] at kept made
  have does : root.Does fun _ => True := made root rfl
  refine ⟨kept, fun v scope s e s' ran => ?_⟩
  rw [Node.compile_plan (compile_isFresh built)] at ran
  obtain ⟨answer, mem, raised, inner, result, place, relayed⟩ :=
    Plan.answers_rejected (congrArg Prod.fst ran)
  rw [List.nil_append] at place
  have came : (answer.site.run scope answer.before).1 = .error (.rejected raised) := by
    rw [Plan.answers_run mem]
    exact result
  by_cases named : raised.Named scope
  · exact .inl ((relayed.named_iff scope).mpr named)
  · cases handles : answer.site.isHandler with
    | true => exact .inr ⟨answer, mem, raised, handles, result, named, place ▸ relayed⟩
    | false =>
      have sited := does _ (Node.answers_mayAsk mem)
      exact absurd (answer.site.rejected_named sited handles came) named

/-- A handler that raises a rejection of its own, in an element. -/
theorem Chain.rejection_named_handled :
    let grumble : Transformer Scripted.Form Scripted.Desk :=
      { name := "Grumble", apply := fun _ _ _ => throw (.rejected { template := "bad" }) }
    let lose : Handler Scripted.Form Scripted.Desk :=
      .function fun _ => throw (.rejected { template := "lost" })
    let ds : List (Declaration Scripted.Form Scripted.Desk) :=
      [.group (.each none), .node { identity := .given "g" grumble }, .failTo .null (some lose)]
    let scope : Scope Scripted.Form :=
      { record := {}, context := .null, direction := .inbound, tracePaths := false }
    ∃ root q' w',
      compile {} ⟨ds, 0⟩ {} .inbound .all { run := { app := {} } } = ((.ok root, q'), w') ∧
      ∃ answer ∈ root.answers (.array [.null]) scope { app := {} }, ∃ raised,
        answer.site.isHandler = true ∧ answer.result = .error (.rejected raised) ∧
          raised.origin = none := by
  intro grumble lose ds scope
  obtain ⟨l, w₁, resolved, runs⟩ : ∃ l w₁,
      Resolver.resolve {} (.node { identity := .given "g" grumble }) ({} : Scripted.Form)
        { run := { app := {} } } = (.ok l, w₁) ∧
      l.step.run = Callable.asNode "Grumble" fun v scope => grumble.apply v [] scope :=
    ⟨_, _, rfl, rfl⟩
  let guarded : Node Scripted.Form Scripted.Desk :=
    .fresh ("FailTo(" ++ l.name ++ ")") [.leaf l] (.recover .null (some lose))
  have inner : Compiles {} ({} : Scripted.Form) .inbound .all 0 [] (ds.drop 1)
      { run := { app := {} } } [guarded] _ w₁ :=
    .node nofun resolved (.failTo nofun rfl (.atEnd 1 _ _))
  have walk : Compiles {} ({} : Scripted.Form) .inbound .all 0 [] ds { run := { app := {} } }
      [.fresh "Each" [guarded] .each] _ w₁ :=
    .active nofun rfl rfl inner rfl (.atEnd 1 _ _)
  let root : Node Scripted.Form Scripted.Desk :=
    .fresh "Chain" [.fresh "Each" [guarded] .each] .pipe
  have built : compile {} ⟨ds, 0⟩ ({} : Scripted.Form) .inbound .all { run := { app := {} } } =
      ((.ok root, _), w₁) :=
    compile_eq_ok.mpr ⟨[_], _, walk, rfl, rfl⟩
  let lost : Rejection := { template := "lost", indices := [0] }
  have ran : root.compile (.array [.null]) scope { app := {} } =
      (.error (.rejected lost), { app := {} }) := by
    change Strategy.runEach (Strategy.runRecover .null (some lose) l.step.run) (.array [.null])
      scope { app := {} } = _
    rw [runs]
    rfl
  obtain ⟨-, named⟩ := rejection_named built (.of_empty rfl)
  rcases named _ _ _ _ _ ran with ⟨origin, -⟩ | ⟨answer, mem, raised, handles, result, -, relayed⟩
  · cases origin
  · exact ⟨root, _, w₁, built, answer, mem, raised, handles, result, relayed.origin.symm⟩

/-- A handler that raises a rejection of its own, while paths are traced. -/
theorem Chain.rejection_unnamed :
    let grumble : Transformer Scripted.Form Scripted.Desk :=
      { name := "Grumble", apply := fun _ _ _ => throw (.rejected { template := "bad" }) }
    let lose : Handler Scripted.Form Scripted.Desk :=
      .function fun _ => throw (.rejected { template := "lost" })
    let ds : List (Declaration Scripted.Form Scripted.Desk) :=
      [.node { identity := .given "g" grumble }, .failTo .null (some lose)]
    let scope : Scope Scripted.Form :=
      { record := {}, context := .null, direction := .inbound, tracePaths := true }
    ∃ root q' w' e s',
      compile {} ⟨ds, 0⟩ {} .inbound .all { run := { app := {} } } = ((.ok root, q'), w') ∧
      root.compile .null scope { app := {} } = (.error (.rejected e), s') ∧
      e.origin = none ∧ e.path = none := by
  intro grumble lose ds scope
  obtain ⟨l, w₁, resolved, runs⟩ : ∃ l w₁,
      Resolver.resolve {} (.node { identity := .given "g" grumble }) ({} : Scripted.Form)
        { run := { app := {} } } = (.ok l, w₁) ∧
      l.step.run = Callable.asNode "Grumble" fun v scope => grumble.apply v [] scope :=
    ⟨_, _, rfl, rfl⟩
  let guarded : Node Scripted.Form Scripted.Desk :=
    .fresh ("FailTo(" ++ l.name ++ ")") [.leaf l] (.recover .null (some lose))
  have walk : Compiles {} ({} : Scripted.Form) .inbound .all 0 [] ds { run := { app := {} } }
      [guarded] _ w₁ :=
    .node nofun resolved (.failTo nofun rfl (.atEnd 1 _ _))
  have built : compile {} ⟨ds, 0⟩ ({} : Scripted.Form) .inbound .all { run := { app := {} } } =
      ((.ok (.fresh "Chain" [guarded] .pipe), _), w₁) :=
    compile_eq_ok.mpr ⟨[_], _, walk, rfl, rfl⟩
  refine ⟨_, _, w₁, { template := "lost" }, { app := {} }, built, ?_, rfl, rfl⟩
  change Strategy.runRecover .null (some lose) l.step.run .null scope { app := {} } = _
  rw [runs]
  rfl

end Run

end FieldPipeline
