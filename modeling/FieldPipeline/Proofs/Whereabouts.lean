import FieldPipeline.Proofs.Answers
import FieldPipeline.Proofs.Supply
import FieldPipeline.Scripted.Form

namespace FieldPipeline

open Outcome

variable {ρ σ : Type}

namespace Rejection

/-- A rejection that does not say where it comes from. -/
structure Unplaced (r : Rejection) : Prop where
  origin : r.origin = none
  path : r.path = none
  indices : r.indices = []

/-- A rejection that was raised at `node` under the frames `frames`, and in no element. -/
structure RaisedUnder (scope : Scope ρ) (frames : List String) (node : String) (r : Rejection) :
    Prop where
  origin : r.origin = some node
  path : r.path = if scope.tracePaths then some (frames ++ [node]) else none
  indices : r.indices = []

theorem Unplaced.enrich {r : Rejection} (h : r.Unplaced) (scope : Scope ρ) (frames : List String)
    (node : String) : RaisedUnder scope frames node (scope.enrich node (frames ++ [node]) r) := by
  unfold Scope.enrich
  split
  · next traced =>
    refine ⟨?_, ?_, h.indices⟩
    · simp [raisedAt, alongPath, h.origin]
    · simp [raisedAt, alongPath, h.path, traced]
  · next untraced =>
    refine ⟨?_, ?_, h.indices⟩
    · simp [raisedAt, h.origin]
    · simp [raisedAt, h.path, untraced]

theorem unplaced_allFailed (attempts : Nat) (failures : List Rejection) :
    (allFailed attempts failures).Unplaced :=
  ⟨rfl, rfl, rfl⟩

end Rejection

/-- Code that does not know where in a pipeline it runs: its rejections do not say where they come
from, and it leaves the trace as it finds it. -/
structure Callable.Plain (scope : Scope ρ) (body : Callable ρ σ) : Prop where
  unplaced : ∀ v s r, (body v scope s).1 = .error (.rejected r) → r.Unplaced
  balanced : ∀ v s, (body v scope s).2.trace = s.trace

namespace Callable.Plain

variable {scope : Scope ρ} {body : Callable ρ σ} (h : body.Plain scope) {name : String} {v : Value}
  {s : RunState σ}

include h

theorem asNode_rejected {r : Rejection}
    (ran : (body.asNode name v scope s).1 = .error (.rejected r)) :
    r.RaisedUnder scope s.trace.frames name := by
  rw [asNode, Scope.framed_fst, Act.onRejection_rejected, h.balanced] at ran
  obtain ⟨raised, failed, rfl⟩ := ran
  have unplaced := h.unplaced v _ raised failed
  cases traced : scope.tracePaths with
  | true =>
    have frames : (scope.enter name s).trace.frames = s.trace.frames ++ [name] := by
      rw [Scope.enter, if_pos traced]
      rfl
    rw [frames]
    exact unplaced.enrich scope s.trace.frames name
  | false =>
    have same (path path' : List String) :
        scope.enrich name path raised = scope.enrich name path' raised := by
      simp [Scope.enrich, traced]
    rw [same _ (s.trace.frames ++ [name])]
    exact unplaced.enrich scope s.trace.frames name

end Callable.Plain

section Run

variable [Record ρ σ] {scope : Scope ρ} {root : Node ρ σ} {site : Site ρ σ}

/-- The failure handlers of a tree raise no rejections, and leave the trace as they find it. -/
def Node.Recovers (scope : Scope ρ) (root : Node ρ σ) : Prop :=
  ∀ fallback h v r, root.MayAsk (.handler fallback h v r) →
    (∀ s r', ((Site.handler fallback h v r).run scope s).1 ≠ .error (.rejected r')) ∧
      (Site.handler fallback h v r).Balanced scope

theorem Node.MayAsk.balanced (asked : root.MayAsk site) (does : root.Does (·.Plain scope))
    (recovers : root.Recovers scope) : site.Balanced scope := by
  intro s
  cases site with
  | leaf l v | predicate run v =>
    exact (does _ asked).balanced (fun body plain => plain.balanced v) s
  | handler fallback h v r => exact (recovers fallback h v r asked).2 s
  | refusal node r => rfl

omit [Record ρ σ] in
theorem Node.MayAsk.refusal {node : String} {r : Rejection}
    (asked : root.MayAsk (.refusal node r)) : r.Unplaced := by
  obtain ⟨part, -, asks⟩ := asked
  cases asks with
  | each v => exact ⟨rfl, rfl, rfl⟩
  | any attempts failures => exact Rejection.unplaced_allFailed attempts failures

/-- A site names itself as the origin of what it rejects, and stands at the end of the path. -/
theorem Node.MayAsk.rejected (asked : root.MayAsk site) (does : root.Does (·.Plain scope))
    (recovers : root.Recovers scope) {s : RunState σ} {r : Rejection}
    (ran : (site.run scope s).1 = .error (.rejected r)) :
    ∃ node, r.RaisedUnder scope s.trace.frames node := by
  cases site with
  | leaf l v =>
    obtain ⟨name, body, runs, plain⟩ := does _ asked
    rw [Site.run, runs] at ran
    exact ⟨name, plain.asNode_rejected ran⟩
  | predicate run v =>
    obtain ⟨name, body, rfl, plain⟩ := does _ asked
    exact ⟨name, plain.asNode_rejected ran⟩
  | handler fallback h v raised =>
    exact absurd ran ((recovers fallback h v raised asked).1 s r)
  | refusal node raised =>
    cases ran
    exact ⟨node, asked.refusal.enrich scope s.trace.frames node⟩

/-- What the declarations of a pipeline refer to runs as nodes. If it does not say where it runs,
every rejection that leaves the pipeline does: it was raised at one of the sites, its positions are
those of the elements around that site, and while paths are traced its path are the frames of these
elements and then its origin. -/
theorem Chain.rejection_located {r : Resolver ρ σ} {q q' : Queue ρ σ} {owner : ρ}
    {direction : Direction} {take : Take} {w w' : Workspace ρ σ}
    (built : Chain.compile r q owner direction take w = ((.ok root, q'), w')) :
    (∀ P, Supplied r owner P q.rest → w.cache.Holds (Uses owner q.rest) P → root.Does P) ∧
    ∀ scope, root.Does (·.Plain scope) → root.Recovers scope →
      ∀ v s e s', root.compile v scope s = (.error (.rejected e), s') →
      ∃ node, e.origin = some node ∧
        e.path = (if scope.tracePaths then
          some (s.trace.frames ++ (e.indices.map fun i => "[" ++ toString i ++ "]") ++ [node])
          else none) ∧
        ∃ answer ∈ root.answers v scope s, answer.place = e.indices ∧
          ∃ raised, answer.result = .error (.rejected raised) ∧ e.Relays raised e.indices := by
  refine ⟨fun P => compile_does built, ?_⟩
  intro scope does recovers v s e s' ran
  rw [Node.compile_plan (compile_isFresh built)] at ran
  obtain ⟨answer, mem, raised, inner, result, place, relayed⟩ :=
    Plan.answers_rejected (congrArg Prod.fst ran)
  rw [List.nil_append] at place
  have asked : root.MayAsk answer.site := Node.answers_mayAsk mem
  have came : (answer.site.run scope answer.before).1 = .error (.rejected raised) := by
    rw [Plan.answers_run mem]
    exact result
  obtain ⟨node, named⟩ := asked.rejected does recovers came
  have positions : e.indices = inner := by
    rw [relayed.indices, named.indices, List.append_nil]
  subst positions
  refine ⟨node, relayed.origin.trans named.origin, ?_, answer, mem, place, raised, result, relayed⟩
  rw [relayed.path, named.path]
  split
  · next traced =>
    rw [Node.answers_frames (fun site asked => asked.balanced does recovers) mem, place,
      Scope.elementFrames, if_pos traced]
  · rfl

/-- A node that always fails, inside the first element of the second element. -/
theorem Chain.rejection_located_nested :
    let grumble : Transformer Scripted.Form Scripted.Desk :=
      { name := "Grumble", apply := fun _ _ _ => throw (.rejected { template := "bad" }) }
    let ds : List (Declaration Scripted.Form Scripted.Desk) :=
      [.group (.each none), .group (.each none), .node { identity := .given "g" grumble }]
    let scope : Scope Scripted.Form :=
      { record := {}, context := .null, direction := .inbound, tracePaths := true }
    ∃ root q' w' e s',
      compile {} ⟨ds, 0⟩ {} .inbound .all { run := { app := {} } } = ((.ok root, q'), w') ∧
      root.compile (.array [.array [], .array [.null]]) scope { app := {} } =
        (.error (.rejected e), s') ∧
      e.indices = [1, 0] ∧ e.path = some ["[1]", "[0]", "Grumble"] := by
  intro grumble ds scope
  obtain ⟨l, w₁, resolved, runs⟩ : ∃ l w₁,
      Resolver.resolve {} (.node { identity := .given "g" grumble }) ({} : Scripted.Form)
        { run := { app := {} } } = (.ok l, w₁) ∧
      l.step.run = Callable.asNode "Grumble" fun v scope => grumble.apply v [] scope :=
    ⟨_, _, rfl, rfl⟩
  have inner : Compiles {} ({} : Scripted.Form) .inbound .all 0 [] (ds.drop 2)
      { run := { app := {} } } [.leaf l] _ w₁ :=
    .node nofun resolved (.atEnd 1 _ _)
  have outer : Compiles {} ({} : Scripted.Form) .inbound .all 0 [] (ds.drop 1)
      { run := { app := {} } } [.fresh "Each" [.leaf l] .each] _ w₁ :=
    .active nofun rfl rfl inner rfl (.atEnd 1 _ _)
  have walk : Compiles {} ({} : Scripted.Form) .inbound .all 0 [] ds
      { run := { app := {} } } [.fresh "Each" [.fresh "Each" [.leaf l] .each] .each] _ w₁ :=
    .active nofun rfl rfl outer rfl (.atEnd 1 _ _)
  obtain ⟨⟨number, _⟩, backing, className, method⟩ := l
  subst runs
  let chain : Node Scripted.Form Scripted.Desk := .fresh "Chain" [.fresh "Each" [.fresh "Each"
    [.leaf ⟨⟨number, Callable.asNode "Grumble" fun v scope => grumble.apply v [] scope⟩, backing,
      className, method⟩] .each] .each] .pipe
  have built : compile {} ⟨ds, 0⟩ ({} : Scripted.Form) .inbound .all { run := { app := {} } } =
      ((.ok chain, _), w₁) :=
    compile_eq_ok.mpr ⟨[_], _, walk, rfl, rfl⟩
  let bad : Rejection :=
    { template := "bad", origin := some "Grumble", path := some ["[1]", "[0]", "Grumble"]
      indices := [1, 0] }
  have ran : chain.compile (.array [.array [], .array [.null]]) scope { app := {} } =
      (.error (.rejected bad), { app := {} }) := rfl
  have plain : grumble.Does (·.Plain scope) := by
    refine fun args => ⟨fun v s r ran => ?_, fun v s => rfl⟩
    cases ran
    exact ⟨rfl, rfl, rfl⟩
  have supplied : Supplied {} ({} : Scripted.Form) (·.Plain scope) ds := by
    intro d hd need hn
    simp only [ds, List.mem_cons, List.not_mem_nil, or_false] at hd
    rcases hd with rfl | rfl | rfl
    · cases hn
    · cases hn
    · cases List.mem_singleton.mp hn
      exact plain
  have recovers : chain.Recovers scope := by
    intro fallback h v r asked
    simp only [chain, Node.mayAsk_fresh, Node.mayAsk_leaf, List.mem_singleton,
      exists_eq_left] at asked
    rcases asked with asks | asks | asks | ⟨_, ⟨⟩⟩ <;> cases asks
  obtain ⟨runs, located⟩ := rejection_located built
  have does := runs (·.Plain scope) supplied (.of_empty rfl)
  obtain ⟨node, origin, path, -⟩ := located scope does recovers _ _ _ _ ran
  cases origin
  exact ⟨chain, _, w₁, _, _, built, ran, rfl, path⟩

end Run

end FieldPipeline
